import BucketMap.Proofs.ListedPorts
import BucketMap.Proofs.NodeIdentity

/-!
# Which port a service has

The ports of a node come from three places: its own fields, the entry of the second list that is
paired with it, and the defaults. `Paired` says which entry that is, rule by rule (`paired?_eq_iff`),
and `NodeFields.Ranked` which of the ports counts for each service.

`Document.ports_of_read`: the nodes of a document that is read are its members of the node list, one
by one, and their ports are ranked in this way.
-/

namespace BucketMap

open Json

/-! ## Pairing -/

/-- The first entry with the property. -/
def FirstWhere (P : Extended → Prop) (slots : List (Option Extended)) (e : Extended) : Prop :=
  ∃ before after, slots = before ++ some e :: after ∧ P e ∧ ∀ e', some e' ∈ before → ¬ P e'

/-- The only entry with the property. -/
def OnlyWhere (P : Extended → Prop) (slots : List (Option Extended)) (e : Extended) : Prop :=
  ∃ before after, slots = before ++ some e :: after ∧ P e ∧
    ∀ e', some e' ∈ before ++ after → ¬ P e'

def Extended.IsAt (address : Text) (e : Extended) : Prop := e.1 = address

/-- The entry is at the address and lists the data port. -/
def Extended.Serves (address : Text) (dataPort : Int) (e : Extended) : Prop :=
  e.IsAt address ∧ e.2.port? .data = some dataPort

instance (address : Text) (e : Extended) : Decidable (e.IsAt address) :=
  inferInstanceAs (Decidable (_ = _))

instance (address : Text) (dataPort : Int) (e : Extended) : Decidable (e.Serves address dataPort) :=
  inferInstanceAs (Decidable (_ ∧ _))

/-- The entry that is paired with the node at an address, with a data port and a position. -/
inductive Paired (address : Text) (dataPort : Int) (position : Nat) (slots : List (Option Extended)) :
    Option Extended → Prop
  | byPort {e : Extended} (hport : FirstWhere (Extended.Serves address dataPort) slots e) :
      Paired address dataPort position slots (some e)
  | byPosition {e : Extended} (hport : ∀ e, some e ∈ slots → ¬ e.Serves address dataPort)
      (hposition : slots[position]? = some (some e)) (haddress : e.IsAt address) :
      Paired address dataPort position slots (some e)
  | byAddress {e : Extended} (hport : ∀ e, some e ∈ slots → ¬ e.Serves address dataPort)
      (hposition : ∀ e, slots[position]? = some (some e) → ¬ e.IsAt address)
      (honly : OnlyWhere (Extended.IsAt address) slots e) :
      Paired address dataPort position slots (some e)
  | unpaired (hport : ∀ e, some e ∈ slots → ¬ e.Serves address dataPort)
      (hposition : ∀ e, slots[position]? = some (some e) → ¬ e.IsAt address)
      (hmany : ∀ e, ¬ OnlyWhere (Extended.IsAt address) slots e) :
      Paired address dataPort position slots none

variable {address : Text} {dataPort : Int} {position : Nat} {slots : List (Option Extended)}
  {e : Extended}

theorem find?_eq_some_iff_firstWhere {P : Extended → Prop} [DecidablePred P] :
    (slots.filterMap id).find? (fun e => decide (P e)) = some e ↔ FirstWhere P slots e := by
  rw [List.find?_filterMap, Option.bind_eq_some_iff]
  constructor
  · rintro ⟨slot, hslot, heq⟩
    obtain rfl : slot = some e := heq
    obtain ⟨hP, before, after, hsplit, hbefore⟩ := List.find?_eq_some_iff_append.mp hslot
    refine ⟨before, after, hsplit, by simpa using hP, ?_⟩
    intro e' he'
    simpa using hbefore (some e') he'
  · rintro ⟨before, after, hsplit, hP, hbefore⟩
    refine ⟨some e, List.find?_eq_some_iff_append.mpr ⟨?_, before, after, hsplit, ?_⟩, rfl⟩
    · simpa using hP
    · intro slot hslot
      cases slot with
      | none => rfl
      | some e' => simpa using hbefore e' hslot

/-- The rule of pairing by data ports looks for an entry that serves the node. -/
theorem find?_entriesAt (address : Text) (dataPort : Int) (slots : List (Option Extended)) :
    (entriesAt address slots).find? (fun e => Services.port? .data e.2 = some dataPort) =
      (slots.filterMap id).find? fun e => decide (e.Serves address dataPort) := by
  unfold entriesAt
  rw [List.find?_filter]
  simp only [decide_eq_true_eq]
  rfl

theorem find?_entriesAt_eq_some_iff :
    (entriesAt address slots).find? (fun e => Services.port? .data e.2 = some dataPort) = some e ↔
      FirstWhere (Extended.Serves address dataPort) slots e := by
  rw [find?_entriesAt]
  exact find?_eq_some_iff_firstWhere

theorem find?_entriesAt_eq_none_iff :
    (entriesAt address slots).find? (fun e => Services.port? .data e.2 = some dataPort) = none ↔
      ∀ e, some e ∈ slots → ¬ e.Serves address dataPort := by
  rw [find?_entriesAt, List.find?_eq_none]
  simp [List.mem_filterMap]

theorem entryAtPosition?_eq_some_iff :
    entryAtPosition? address position slots = some e ↔
      slots[position]? = some (some e) ∧ e.IsAt address := by
  unfold entryAtPosition?
  constructor
  · intro h
    split at h
    · rename_i e' hslot
      split at h
      · rename_i haddress
        cases h
        exact ⟨hslot, haddress⟩
      · cases h
    · cases h
  · rintro ⟨hslot, haddress⟩
    rw [hslot]
    exact if_pos haddress

theorem entryAtPosition?_eq_none_iff :
    entryAtPosition? address position slots = none ↔
      ∀ e, slots[position]? = some (some e) → ¬ e.IsAt address := by
  simp [Option.eq_none_iff_forall_ne_some, entryAtPosition?_eq_some_iff]

theorem only?_eq_some_iff {α : Type} {xs : List α} {a : α} : only? xs = some a ↔ xs = [a] := by
  unfold only?
  split
  · simp
  · rename_i hne
    exact iff_of_false (by simp) (hne a)

/-- An entry at an address, and nothing for any other slot. -/
theorem entriesAt_eq (address : Text) (slots : List (Option Extended)) :
    entriesAt address slots = slots.filterMap fun slot => slot.filter fun e => e.1 = address := by
  unfold entriesAt
  rw [List.filter_filterMap]
  rfl

theorem only?_entriesAt_eq_some_iff :
    only? (entriesAt address slots) = some e ↔ OnlyWhere (Extended.IsAt address) slots e := by
  have hfilter (slot : Option Extended) :
      (slot.filter fun e => e.1 = address) = none ↔ ∀ e, slot = some e → ¬ e.IsAt address := by
    simp [Option.filter_eq_none_iff, Extended.IsAt]
  rw [only?_eq_some_iff, entriesAt_eq, List.filterMap_eq_cons_iff]
  simp only [List.filterMap_eq_nil_iff, hfilter]
  constructor
  · rintro ⟨before, slot, after, hsplit, hbefore, hslot, hafter⟩
    obtain ⟨rfl, haddress⟩ := Option.filter_eq_some_iff.mp hslot
    refine ⟨before, after, hsplit, of_decide_eq_true haddress, ?_⟩
    intro e' he'
    rcases List.mem_append.mp he' with he' | he'
    · exact hbefore _ he' e' rfl
    · exact hafter _ he' e' rfl
  · rintro ⟨before, after, hsplit, haddress, hothers⟩
    refine ⟨before, some e, after, hsplit, ?_, ?_, ?_⟩
    · rintro _ he' e' rfl
      exact hothers e' (List.mem_append_left after he')
    · exact Option.filter_eq_some_iff.mpr ⟨rfl, decide_eq_true haddress⟩
    · rintro _ he' e' rfl
      exact hothers e' (List.mem_append_right before he')

theorem only?_entriesAt_eq_none_iff :
    only? (entriesAt address slots) = none ↔ ∀ e, ¬ OnlyWhere (Extended.IsAt address) slots e := by
  simp [Option.eq_none_iff_forall_ne_some, only?_entriesAt_eq_some_iff]

/-- The rules determine the entry, and it is the one that is looked up. -/
theorem paired?_eq_iff {entry : Option Extended} :
    paired? address dataPort position slots = entry ↔
      Paired address dataPort position slots entry := by
  rw [paired?_eq]
  constructor
  · -- A rule is tried where the ones before it give no entry.
    rintro rfl
    cases hfind : (entriesAt address slots).find? fun e =>
        Services.port? .data e.2 = some dataPort with
    | some e => exact .byPort (find?_entriesAt_eq_some_iff.mp hfind)
    | none =>
      have hport := find?_entriesAt_eq_none_iff.mp hfind
      rw [Option.none_or]
      cases hentry : entryAtPosition? address position slots with
      | some e =>
        obtain ⟨hposition, haddress⟩ := entryAtPosition?_eq_some_iff.mp hentry
        exact .byPosition hport hposition haddress
      | none =>
        have hposition := entryAtPosition?_eq_none_iff.mp hentry
        rw [Option.none_or]
        cases honly : only? (entriesAt address slots) with
        | some e => exact .byAddress hport hposition (only?_entriesAt_eq_some_iff.mp honly)
        | none => exact .unpaired hport hposition (only?_entriesAt_eq_none_iff.mp honly)
  · intro h
    cases h with
    | byPort hport =>
      rw [find?_entriesAt_eq_some_iff.mpr hport]
      rfl
    | byPosition hport hposition haddress =>
      rw [find?_entriesAt_eq_none_iff.mpr hport,
        entryAtPosition?_eq_some_iff.mpr ⟨hposition, haddress⟩]
      rfl
    | byAddress hport hposition honly =>
      rw [find?_entriesAt_eq_none_iff.mpr hport, entryAtPosition?_eq_none_iff.mpr hposition,
        only?_entriesAt_eq_some_iff.mpr honly]
      rfl
    | unpaired hport hposition hmany =>
      rw [find?_entriesAt_eq_none_iff.mpr hport, entryAtPosition?_eq_none_iff.mpr hposition,
        only?_entriesAt_eq_none_iff.mpr hmany]
      rfl

/-! ## Ranks -/

/-- The port that the paired entry lists for a service. -/
def listed? (entry : Option Extended) (service : Service) : Option Int :=
  entry.bind fun e => e.2.port? service

/-- The ports of a node by rank. Its direct port stands above the ports of its entry, its other ones
stand below these, and the defaults stand below all. -/
structure NodeFields.Ranked (defaults : PortDefaults) (entry : Option Extended) (e : NodeFields)
    (n : Node) : Prop where
  data : n.port? .data = some (e.direct.getD ((listed? entry .data).getD defaults.data))
  management : n.port? .management = some ((listed? entry .management).getD
    (if e.host.port = 0 then defaults.management else e.host.port))
  views : n.port? .views = (listed? entry .views).or e.view
  query : n.port? .query = listed? entry .query
  search : n.port? .search = listed? entry .search
  analytics : n.port? .analytics = listed? entry .analytics

theorem port?_pairedServices (address : Text) (dataPort : Int) (position : Nat)
    (slots : List (Option Extended)) (service : Service) :
    (pairedServices address dataPort position slots).port? service =
      listed? (paired? address dataPort position slots) service := by
  unfold pairedServices
  cases paired? address dataPort position slots with
  | none => rfl
  | some e => rfl

theorem pairedServices_distinct (h : ∀ e, some e ∈ slots → e.2.Distinct) :
    (pairedServices address dataPort position slots).Distinct := by
  cases hpaired : paired? address dataPort position slots with
  | none =>
    rw [pairedServices, hpaired]
    exact List.nodup_nil
  | some e =>
    rw [pairedServices_of_paired? hpaired]
    exact h e (mem_of_paired? hpaired)

theorem NodeFields.ranked_of_services {defaults : PortDefaults} {e : NodeFields} {n : Node}
    (h : ∀ e, some e ∈ slots → e.2.Distinct) (hn : n.services = e.services defaults slots position) :
    e.Ranked defaults
      (paired? e.host.address (e.direct.getD defaults.data) position slots) n := by
  have hdistinct : (pairedServices e.host.address (e.direct.getD defaults.data) position
      slots).Distinct := pairedServices_distinct h
  have hport := hdistinct.port?_merge e.direct
    (ownServices defaults e.host.port e.direct e.view)
  rw [← NodeFields.services, ← hn] at hport
  simp only [port?_pairedServices, port?_ownServices] at hport
  constructor
  · refine (hport .data).trans ?_
    rw [if_pos rfl, Option.or_some]
    cases e.direct with
    | none => rfl
    | some port => rfl
  · exact (hport .management).trans Option.or_some
  · exact hport .views
  · exact (hport .query).trans Option.or_none
  · exact (hport .search).trans Option.or_none
  · exact (hport .analytics).trans Option.or_none

/-! ## The nodes of a document -/

/-- The items of the array at a key. Any other value counts as an empty array. -/
def Fields.arrayAt (fields : Fields) (key : String) : List Json :=
  match fields.given? key with
  | some (.arr items) => items
  | _ => []

theorem Fields.arrayAt_of_array {fields : Fields} {key : String} {items : List Json}
    (h : fields.array key = .ok items) : fields.arrayAt key = items := by
  rw [arrayAt, array_eq_ok_iff.mp h]

theorem Fields.arrayAt_of_array? {fields : Fields} {key : String} {items : Option (List Json)}
    (h : fields.array? key = .ok items) : fields.arrayAt key = items.getD [] := by
  rw [arrayAt, array?_eq_ok_iff.mp h]
  cases items with
  | none => rfl
  | some items => rfl

/-- The node is the member of the node list at this position: at its address, with ranked ports. -/
def RankedAt (defaults : PortDefaults) (slots : List (Option Extended)) (raw : Json × Nat)
    (n : Node) : Prop :=
  ∃ (members : Fields) (e : NodeFields) (entry : Option Extended), raw.1 = .obj members ∧
    e.SaidBy members ∧
    Address.normalize e.host.address = .ok n.hostname ∧
    Paired e.host.address (e.direct.getD defaults.data) raw.2 slots entry ∧
    e.Ranked defaults entry n

/-- The nodes are the members of the node list of a decoded document, one by one and with ranked
ports. -/
def PortsRanked (defaults : PortDefaults) (v : Json) (nodes : List Node) : Prop :=
  ∃ (fields : Fields) (slots : List (Option Extended)), v = .obj fields ∧
    List.Forall₂ SaidByEntry (fields.arrayAt "nodesExt") slots ∧
    List.Forall₂ (RankedAt defaults slots) (fields.arrayAt "nodes").zipIdx nodes

theorem rankedAt_of_readNode {defaults : PortDefaults} {raw : Json} {n : Node}
    (h : ∀ e, some e ∈ slots → e.2.Distinct)
    (hread : (readNode defaults slots position raw).outcome = .ok n) :
    RankedAt defaults slots (raw, position) n := by
  obtain ⟨members, hraw, hfields⟩ := readNode_eq_ok hread
  obtain ⟨e, hfrom, hhostname, hservices⟩ := readNodeFields_eq_ok hfields
  exact ⟨members, e, _, hraw, hfrom.saidBy, hhostname, paired?_eq_iff.mp rfl,
    NodeFields.ranked_of_services h hservices⟩

namespace Document

/-- **Ports of services.** The nodes of a document that is read are the members of its node list, one
by one, and the port of each service is the first one in the order of ranks. -/
theorem ports_of_read {defaults : PortDefaults} {source : Source} {v : Json} {doc : Document}
    (hv : decode source = .ok v) (hread : (read defaults source).outcome = .ok doc) :
    PortsRanked defaults v doc.nodes := by
  obtain ⟨fields, raws, entries, slots, hv', hraws, hentries, hslots, hnodes⟩ := nodes_of_read hread
  cases hv.symm.trans hv'
  have hlist := readExtendedList_eq_ok_iff.mp hslots
  have hdistinct : ∀ e, some e ∈ slots → e.2.Distinct := by
    intro e he
    obtain ⟨entry, -, hentry⟩ := exists_mem_of_forall₂ hlist he
    exact readExtended_distinct hentry
  refine ⟨fields, slots, rfl, ?_, ?_⟩
  · rw [Fields.arrayAt_of_array? hentries]
    exact hlist.imp fun _ _ => saidByEntry_of_readExtended
  · rw [Fields.arrayAt_of_array hraws]
    exact hnodes.imp fun _ _ => rankedAt_of_readNode hdistinct

/-! ### Two nodes and one entry -/

/-- A document with two nodes at one address and one entry for both. The first node is paired by its
data port, the second one by its position, since an entry without host stands before theirs. -/
def rankedDocument : Json :=
  let field (key value : String) : Text × Json := (Text.ofString key, .str (Text.ofString value))
  .obj (emptyFields.dropLast ++
    [(Text.ofString "nodes", .arr
      [.obj [field "hostname" "a:8092", field "couchApiBase" "http://a:9500/b"],
        .obj [field "hostname" "[a]",
          (Text.ofString "ports", .obj [(Text.ofString "direct", .int 11211)])]]),
      (Text.ofString "nodesExt", .arr
        [.obj [], .obj [field "hostname" "A", (Text.ofString "services", .obj
          [(Text.ofString "kv", .int 11210), (Text.ofString "mgmt", .int 18091)])]])])

theorem ports_of_read_ranked :
    ∃ doc, decode (.value rankedDocument) = .ok rankedDocument ∧
      (read ⟨11210, 8091⟩ (.value rankedDocument)).outcome = .ok doc ∧
      PortsRanked ⟨11210, 8091⟩ rankedDocument doc.nodes ∧
      doc.nodes.map (fun n => [n.port? .data, n.port? .management, n.port? .views]) =
        [[some 11210, some 18091, some 9500], [some 11211, some 18091, none]] := by
  have hexists : ∃ doc, (read ⟨11210, 8091⟩ (.value rankedDocument)).outcome = .ok doc ∧
      doc.nodes.map (fun n => [n.port? .data, n.port? .management, n.port? .views]) =
        [[some 11210, some 18091, some 9500], [some 11211, some 18091, none]] := ⟨_, rfl, rfl⟩
  obtain ⟨doc, hread, hports⟩ := hexists
  have hv : decode (.value rankedDocument) = .ok rankedDocument := rfl
  exact ⟨doc, hv, hread, ports_of_read hv hread, hports⟩

end Document

end BucketMap
