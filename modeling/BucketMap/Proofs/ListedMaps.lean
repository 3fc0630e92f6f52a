import BucketMap.Proofs.AcceptedFields
import BucketMap.Proofs.Lookup

/-!
# Lookups read the document

What a document lists in its maps is what the lookups of the config built from it answer: reading
cuts every row into master and replicas, building keeps both maps, and a lookup finds its place in
the row again.

* `rows_of_readRows`: the partitions that a map of integers is read as are its rows.
* `Lists` says which tables a document lists; a missing fast-forward map is one without rows.
* `ReadsTable` says that the lookups of a config under one of its maps read a table.
* `BucketConfig.lookups_read_document` is the composition of the stages.
-/

namespace BucketMap

/-! ## Maps of integers -/

/-- A row of integers as a value. -/
def rowValue (row : List Int) : Json := .arr (row.map .int)

/-- All members of the rows of a map are integers. -/
def IntegerRows (map : Json) : Prop :=
  ∀ rows items, map = .arr rows → .arr items ∈ rows → ∀ v ∈ items, v.IsInteger

theorem integerRows_table (table : List (List Int)) : IntegerRows (.arr (table.map rowValue)) := by
  intro rows items he hitems v hv
  cases he
  obtain ⟨row, _, hrow⟩ := List.mem_map.mp hitems
  cases hrow
  obtain ⟨n, _, rfl⟩ := List.mem_map.mp hv
  exact ⟨n, rfl⟩

/-- There is one partition for each row, and one ordinal for each member of the row, to which it is
related. The first ordinal is that of the master, the others are those of the replicas. -/
def StoresRows (R : Json → Int → Prop) (rows : List Json) (partitions : List Partition) : Prop :=
  List.Forall₂ (fun row p => ∃ items, row = .arr items ∧ List.Forall₂ R items p.row) rows partitions

theorem forall₂_of_integers {values : List Json} {ns : List Int}
    (h : Partition.integers values = .ok ns) :
    List.Forall₂ (fun v n => v.toInt = .ok n) values ns := by
  induction values generalizing ns with
  | nil =>
    cases h
    exact .nil
  | cons v values ih =>
    rw [Partition.integers] at h
    obtain ⟨n, hn, h⟩ := bind_eq_ok_iff.mp h
    obtain ⟨others, hothers, h⟩ := bind_eq_ok_iff.mp h
    cases h
    exact .cons hn (ih hothers)

theorem row_of_ofIntegers {ns : List Int} {q : Partition} (h : Partition.ofIntegers ns = .ok q) :
    q.row = ns := by
  cases ns with
  | nil => cases h
  | cons n ns =>
    cases h
    rfl

theorem exists_items_of_readRow {map : String} {number : Nat} {row : Json} {p : Partition}
    (h : readRow map number row = .ok p) :
    ∃ items, row = .arr items ∧ List.Forall₂ (fun v n => v.toInt = .ok n) items p.row := by
  unfold readRow at h
  split at h
  · cases h
  · rename_i items _
    split at h
    · rename_i ns hns
      rw [row_of_ofIntegers h]
      exact ⟨items, rfl, forall₂_of_integers hns⟩
    · cases h
    · cases h
  · cases h

/-- The ordinals of a map that is read are the integers that the members of its rows stand for. -/
theorem storesRows_of_readRows {map : String} {number : Nat} {rows : List Json}
    {partitions : List Partition} (h : readRows map number rows = .ok partitions) :
    StoresRows (fun v n => v.toInt = .ok n) rows partitions := by
  induction rows generalizing number partitions with
  | nil =>
    cases h
    exact .nil
  | cons row rows ih =>
    rw [readRows] at h
    obtain ⟨p, hp, h⟩ := bind_eq_ok_iff.mp h
    obtain ⟨others, hothers, h⟩ := bind_eq_ok_iff.mp h
    cases h
    exact .cons (exists_items_of_readRow hp) (ih hothers)

theorem eq_map_int {values : List Json} {ns : List Int} (hi : ∀ v ∈ values, v.IsInteger)
    (h : List.Forall₂ (fun v n => v.toInt = .ok n) values ns) : values = ns.map .int := by
  induction h with
  | nil => rfl
  | cons hn _ ih =>
    obtain ⟨⟨n, rfl⟩, hvalues⟩ := List.forall_mem_cons.mp hi
    cases hn
    rw [List.map_cons, ← ih hvalues]

/-- Rows of integers are read as the partitions that have these rows. -/
theorem rows_of_readRows {map : String} {number : Nat} {rows : List Json}
    {partitions : List Partition} (hi : IntegerRows (.arr rows))
    (h : readRows map number rows = .ok partitions) :
    rows = (partitions.map Partition.row).map rowValue := by
  have hmembers : ∀ row ∈ rows, ∀ items, row = .arr items → ∀ v ∈ items, v.IsInteger := by
    rintro row hrow items rfl
    exact hi rows items rfl hrow
  have hstores := storesRows_of_readRows h
  unfold StoresRows at hstores
  clear hi h
  induction hstores with
  | nil => rfl
  | cons hrow _ ih =>
    obtain ⟨items, rfl, hitems⟩ := hrow
    obtain ⟨hfirst, hothers⟩ := List.forall_mem_cons.mp hmembers
    rw [List.map_cons, List.map_cons, ← ih hothers, rowValue, ← eq_map_int (hfirst items rfl) hitems]

/-! ## What a document lists -/

/-- A server map lists these hosts and these tables. A fast-forward map that is missing or null has
no rows. -/
structure ServerMapLists (fields : Fields) (hosts : List Json) (current forward : List (List Int)) :
    Prop where
  servers : fields.given? "serverList" = some (.arr hosts)
  current : fields.given? "vBucketMap" = some (.arr (current.map rowValue))
  forward : fields.given? "vBucketMapForward" = some (.arr (forward.map rowValue)) ∨
    fields.given? "vBucketMapForward" = none ∧ forward = []

/-- A document lists these hosts and these tables. -/
def Lists (v : Json) (hosts : List Json) (current forward : List (List Int)) : Prop :=
  v.ObjectWith fun fields => Fields.Required fields "vBucketServerMap"
    (Json.ObjectWith fun serverMap => ServerMapLists serverMap hosts current forward)

/-- The rows of the maps of a server map hold integers only. -/
def ServerMapIntegers (fields : Fields) : Prop :=
  fields.Optional "vBucketMap" IntegerRows ∧ fields.Optional "vBucketMapForward" IntegerRows

/-- The rows of the maps of a document hold integers only. -/
def IntegerMaps (v : Json) : Prop :=
  ∀ fields, v = .obj fields → Fields.Optional fields "vBucketServerMap" fun map =>
    ∀ serverMap, map = .obj serverMap → ServerMapIntegers serverMap

variable {fields : Fields} {l : Layout}

theorem length_of_displayAll {values : List Json} {ts : List Text}
    (h : Fields.displayAll values = .ok ts) : ts.length = values.length := by
  induction values generalizing ts with
  | nil =>
    cases h
    rfl
  | cons v values ih =>
    rw [Fields.displayAll] at h
    split at h
    · cases h
    · obtain ⟨others, hothers, h⟩ := bind_eq_ok_iff.mp h
      cases h
      rw [List.length_cons, List.length_cons, ih hothers]

/-- The table of the fast-forward map of a layout; it has no rows if there is no such map. -/
def Layout.forwardTable (l : Layout) : List (List Int) := (l.forward.getD []).map Partition.row

theorem forward_of_readForward {rows : Option (List Json)} {forward : Option (List Partition)}
    (hi : IntegerRows (.arr (rows.getD []))) (h : readForward rows = .ok forward) :
    rows.getD [] = ((forward.getD []).map Partition.row).map rowValue ∧
      (forward.isSome = true ↔ forward.getD [] ≠ []) := by
  unfold readForward at h
  split at h
  · cases h
    simp
  · cases h
    simp
  -- A map with rows has partitions, so the one case without rows is that of no map.
  · rename_i rows hne
    obtain ⟨partitions, hpartitions, h⟩ := bind_eq_ok_iff.mp h
    cases h
    have hrows := rows_of_readRows hi hpartitions
    refine ⟨hrows, ?_⟩
    simp only [Option.isSome_some, Option.getD_some, true_iff]
    rintro rfl
    exact hne (by simpa using hrows)

theorem Layout.lists_of_read (hi : ServerMapIntegers fields) (h : Layout.read fields = .ok l) :
    ∃ hosts, ServerMapLists fields hosts (l.partitions.map Partition.row) l.forwardTable ∧
      l.descriptors.length = hosts.length ∧ l.tainted = l.hasForward ∧
      (l.hasForward = true ↔ l.forwardTable ≠ []) := by
  obtain ⟨hcurrentRows, hforwardRows⟩ := hi
  unfold Layout.read at h
  obtain ⟨hosts, hhosts, h⟩ := bind_eq_ok_iff.mp h
  obtain ⟨rows, hrows, h⟩ := bind_eq_ok_iff.mp h
  obtain ⟨partitions, hpartitions, h⟩ := bind_eq_ok_iff.mp h
  obtain ⟨ahead, hahead, h⟩ := bind_eq_ok_iff.mp h
  obtain ⟨forward, hforward, h⟩ := bind_eq_ok_iff.mp h
  obtain ⟨replicas, _, h⟩ := bind_eq_ok_iff.mp h
  obtain ⟨ts, hts, h⟩ := bind_eq_ok_iff.mp h
  cases h
  have hgiven := Fields.array_eq_ok_iff.mp hrows
  have hcurrent := rows_of_readRows (hcurrentRows _ hgiven) hpartitions
  have hgivenAhead := Fields.array?_eq_ok_iff.mp hahead
  have haheadRows : IntegerRows (.arr (ahead.getD [])) := by
    cases ahead with
    | none =>
      intro rows' items he hitems
      cases he
      cases hitems
    | some items => exact hforwardRows _ hgivenAhead
  obtain ⟨htable, hsome⟩ := forward_of_readForward haheadRows hforward
  refine ⟨hosts, ⟨Fields.array_eq_ok_iff.mp hhosts, ?_, ?_⟩, ?_, rfl, ?_⟩
  · rw [hgiven, ← hcurrent]
  · cases ahead with
    | none => exact .inr ⟨hgivenAhead, by simpa [Layout.forwardTable] using htable.symm⟩
    | some items =>
      left
      rw [hgivenAhead, Layout.forwardTable, ← htable]
      rfl
  · rw [List.length_map]
    exact length_of_displayAll hts
  · simpa [Layout.hasForward, Layout.forwardTable] using hsome

theorem readFields_layout {defaults : PortDefaults} {doc : Document}
    (h : (Document.readFields defaults fields).outcome = .ok doc) :
    ∃ serverMap, fields.given? "vBucketServerMap" = some (.obj serverMap) ∧
      Layout.read serverMap = .ok doc.layout := by
  unfold Document.readFields at h
  obtain ⟨_, _, h⟩ := Run.outcome_bind_eq_ok_iff.mp h
  obtain ⟨_, _, h⟩ := Run.outcome_bind_eq_ok_iff.mp h
  obtain ⟨serverMap, hserverMap, h⟩ := Run.outcome_bind_eq_ok_iff.mp h
  obtain ⟨layout, hlayout, h⟩ := Run.outcome_bind_eq_ok_iff.mp h
  iterate 8 obtain ⟨_, _, h⟩ := Run.outcome_bind_eq_ok_iff.mp h
  cases h
  exact ⟨serverMap, Fields.object_eq_ok_iff.mp hserverMap, hlayout⟩

/-- The layout of a document that was read lists what the document lists. -/
theorem lists_of_read {defaults : PortDefaults} {source : Source} {v : Json} {doc : Document}
    (hv : Document.decode source = .ok v) (hi : IntegerMaps v)
    (h : (Document.read defaults source).outcome = .ok doc) :
    ∃ hosts, Lists v hosts (doc.layout.partitions.map Partition.row) doc.layout.forwardTable ∧
      doc.layout.descriptors.length = hosts.length ∧
      doc.layout.tainted = doc.layout.hasForward ∧
      (doc.layout.hasForward = true ↔ doc.layout.forwardTable ≠ []) := by
  unfold Document.read at h
  obtain ⟨v', hv', h⟩ := Run.outcome_bind_eq_ok_iff.mp h
  rw [Run.outcome_ofExcept, hv] at hv'
  cases hv'
  cases v with
  | obj fields =>
    obtain ⟨serverMap, hserverMap, hlayout⟩ := readFields_layout h
    obtain ⟨hosts, hlists, hrest⟩ :=
      Layout.lists_of_read (hi fields rfl _ hserverMap serverMap rfl) hlayout
    exact ⟨hosts, ⟨fields, rfl, _, hserverMap, serverMap, rfl, hlists⟩, hrest⟩
  | _ => cases h

/-! ## Tables and lookups -/

theorem standsAt_map_iff {α β : Type} {f : α → β} {xs : List α} {position : Int} {y : β} :
    StandsAt (xs.map f) position y ↔ ∃ x, StandsAt xs position x ∧ f x = y := by
  unfold StandsAt
  constructor
  · rintro ⟨k, hk, hy⟩
    rw [List.getElem?_map, Option.map_eq_some_iff] at hy
    obtain ⟨x, hx, hfx⟩ := hy
    exact ⟨x, ⟨k, hk, hx⟩, hfx⟩
  · rintro ⟨x, ⟨k, hk, hx⟩, rfl⟩
    exact ⟨k, hk, by rw [List.getElem?_map, hx, Option.map_some]⟩

theorem outside_map_iff {α β : Type} {f : α → β} {xs : List α} {position : Int} :
    Outside (xs.map f) position ↔ Outside xs position := by
  unfold Outside
  rw [List.length_map]

theorem standsAt_succ_of_standsAt {α : Type} {x y : α} {xs : List α} {position : Int}
    (h : StandsAt xs position y) : StandsAt (x :: xs) (position + 1) y := by
  obtain ⟨k, rfl, hk⟩ := h
  exact ⟨k + 1, rfl, by simpa using hk⟩

namespace BucketConfig

/-- The lookups under one of the maps read a table: the first member of a row is the ordinal of the
master, and the members behind it are those of the replicas. -/
structure ReadsTable (c : BucketConfig) (ahead : Bool) (table : List (List Int)) : Prop where
  master : ∀ p row, Numeral.Fits 4000 p → StandsAt table p row →
    ∃ m, StandsAt row 0 m ∧ (c.masterOrdinal p ahead).outcome = .ok m
  master_outside : ∀ p, Numeral.Fits 4000 p → Outside table p →
    (c.masterOrdinal p ahead).outcome = .ok notExistent
  replica : ∀ p r row, Numeral.Fits 4000 p → Numeral.Fits 4000 r → StandsAt table p row →
    0 ≤ r → r < row.length - 1 →
      ∃ o, StandsAt row (r + 1) o ∧ (c.replicaOrdinal p r ahead).outcome = .ok o
  replica_outside : ∀ p r, Numeral.Fits 4000 p → Numeral.Fits 4000 r →
    (Outside table p ∨ r < 0 ∨ ∃ row, StandsAt table p row ∧ row.length - 1 ≤ r) →
      (c.replicaOrdinal p r ahead).outcome = .ok notExistent

variable {c : BucketConfig} {ahead : Bool} {partitions : List Partition}

theorem replicaOutside_of_rows {p r : Int}
    (h : Outside (partitions.map Partition.row) p ∨ r < 0 ∨
      ∃ row, StandsAt (partitions.map Partition.row) p row ∧ row.length - 1 ≤ r) :
    ReplicaOutside partitions p r := by
  by_cases hp : Outside partitions p
  · exact .inl hp
  · obtain ⟨q, hq⟩ := exists_standsAt hp
    right
    refine ⟨q, hq, ?_⟩
    rcases h with hout | hneg | ⟨row, hrow, hlen⟩
    · exact absurd (outside_map_iff.mp hout) hp
    · exact .inl hneg
    · obtain ⟨q', hq', rfl⟩ := standsAt_map_iff.mp hrow
      rw [hq.unique hq']
      right
      simpa [Partition.row] using hlen

/-- The lookups under a map read the rows of its partitions. -/
theorem readsTable_of_map (hm : c.map ahead = .ok partitions) :
    c.ReadsTable ahead (partitions.map Partition.row) where
  master := by
    intro p row _ hrow
    obtain ⟨q, hq, rfl⟩ := standsAt_map_iff.mp hrow
    exact ⟨q.master, ⟨0, rfl, rfl⟩, masterOrdinal_of_standsAt hm hq⟩
  master_outside := by
    intro p hp hout
    exact masterOrdinal_of_outside hm (hp.writable (by decide)) (outside_map_iff.mp hout)
  replica := by
    intro p r row _ _ hrow hpos hlen
    obtain ⟨q, hq, rfl⟩ := standsAt_map_iff.mp hrow
    have hin : ¬ Outside q.replicas r := by
      unfold Outside
      simp only [Partition.row, List.length_cons] at hlen
      omega
    obtain ⟨o, ho⟩ := exists_standsAt hin
    exact ⟨o, standsAt_succ_of_standsAt ho, replicaOrdinal_of_replicaAt hm ⟨q, hq, ho⟩⟩
  replica_outside := by
    intro p r hp hr hout
    exact replicaOrdinal_of_outside hm (hp.writable (by decide)) (hr.writable (by decide))
      (replicaOutside_of_rows hout)

theorem lookups_without_map {f : Failure} (hm : c.map ahead = .error f) (p r : Int) :
    (c.masterOrdinal p ahead).outcome = .error f ∧
      (c.replicaOrdinal p r ahead).outcome = .error f := by
  constructor
  · unfold masterOrdinal
    rw [hm, Run.ofExcept_error, Run.bind_eq, Run.fail_andThen]
    rfl
  · unfold replicaOrdinal
    rw [hm, Run.ofExcept_error, Run.bind_eq, Run.fail_andThen]
    rfl

/-- **From the document to the lookups.** A config built from a document whose maps hold integers
reads them: the current map, and the fast-forward map if that has rows. Otherwise every lookup in
the fast-forward map fails. There is a partition host for each member of the server list. -/
theorem lookups_read_document {defaults : PortDefaults} {source : Source} {v : Json}
    {doc : Document} {log : Option Channel} {c : BucketConfig} (hv : Document.decode source = .ok v)
    (hi : IntegerMaps v) (hread : (Document.read defaults source).outcome = .ok doc)
    (hbuild : (build log doc).outcome = .ok c) :
    ∃ hosts current forward, Lists v hosts current forward ∧
      c.ReadsTable false current ∧
      ((c.tainted = true ↔ forward ≠ []) ∧ (c.hasForward = true ↔ forward ≠ [])) ∧
      (forward ≠ [] → c.ReadsTable true forward) ∧
      (forward = [] → ∀ p r, (c.masterOrdinal p true).outcome = .error .noForwardMap ∧
        (c.replicaOrdinal p r true).outcome = .error .noForwardMap) ∧
      c.hosts.length = hosts.length := by
  obtain ⟨hosts, hlists, hlength, htainted, hforward⟩ := lists_of_read hv hi hread
  have hbuilt := builtFrom_of_build hbuild
  obtain ⟨-, -, -, -, -, hlayout, -⟩ := hbuilt.fields
  have hhosts := (partitionHosts_outcome_eq_ok_iff.mp hbuilt.hosts).2
  rw [← hlayout] at hlists htainted hforward
  refine ⟨hosts, _, _, hlists, readsTable_of_map (map_false c), ⟨?_, hforward⟩, ?_, ?_,
    hhosts.trans hlength⟩
  · rw [tainted, htainted]
    exact hforward
  · intro hne
    obtain ⟨partitions, hpartitions⟩ := Option.isSome_iff_exists.mp (hforward.mpr hne)
    have htable : c.layout.forwardTable = partitions.map Partition.row := by
      rw [Layout.forwardTable, hpartitions, Option.getD_some]
    rw [htable]
    exact readsTable_of_map (map_true_of_forward hpartitions)
  · intro hnil
    have hnone : c.layout.forward = none := by
      rw [← Option.not_isSome_iff_eq_none]
      exact fun hsome => hforward.mp hsome hnil
    exact lookups_without_map (map_true_of_none hnone)

/-- A document with rows of different lengths, in the middle of a rebalance. -/
def ragged : Json :=
  .obj [(Text.ofString "rev", .int 1), (Text.ofString "name", .str (Text.ofString "b")),
    (Text.ofString "vBucketServerMap",
      .obj [(Text.ofString "serverList", .arr [.str (Text.ofString "a")]),
        (Text.ofString "vBucketMap", .arr ([[0], [-1, 0]].map rowValue)),
        (Text.ofString "vBucketMapForward", .arr ([[0, -1, 0]].map rowValue)),
        (Text.ofString "numReplicas", .int 2)]),
    (Text.ofString "nodes", .arr [.obj [(Text.ofString "hostname", .str (Text.ofString "a"))]])]

theorem integerMaps_ragged : IntegerMaps ragged := by
  intro fields hfields map hmap serverMap hserverMap
  cases hfields
  cases hmap
  cases hserverMap
  constructor
  · intro v hv
    cases hv
    exact integerRows_table _
  · intro v hv
    cases hv
    exact integerRows_table _

/-- Both maps of that document are read. -/
theorem lookups_read_document_ragged :
    ∃ doc c, Document.decode (.value ragged) = .ok ragged ∧ IntegerMaps ragged ∧
      (Document.read ⟨11210, 8091⟩ (.value ragged)).outcome = .ok doc ∧
      (build none doc).outcome = .ok c ∧
      ∃ hosts current forward, Lists ragged hosts current forward ∧ c.ReadsTable false current ∧
        c.ReadsTable true forward ∧ c.hosts.length = hosts.length := by
  have hbuilt : ∃ doc c, (Document.read ⟨11210, 8091⟩ (.value ragged)).outcome = .ok doc ∧
      (build none doc).outcome = .ok c ∧ c.hasForward = true := ⟨_, _, rfl, rfl, rfl⟩
  obtain ⟨doc, c, hread, hbuild, hsome⟩ := hbuilt
  obtain ⟨hosts, current, forward, hlists, hcurrent, ⟨-, hforward⟩, hahead, -, hlength⟩ :=
    lookups_read_document rfl integerMaps_ragged hread hbuild
  exact ⟨doc, c, rfl, integerMaps_ragged, hread, hbuild, hosts, current, forward, hlists, hcurrent,
    hahead (hforward.mp hsome), hlength⟩

end BucketConfig

end BucketMap
