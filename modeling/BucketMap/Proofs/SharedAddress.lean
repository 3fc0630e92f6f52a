import BucketMap.Proofs.AcceptedDocuments
import BucketMap.Proofs.NodePorts

/-!
# Nodes that share an address

Nodes at one address are told apart by their data ports: where the two node lists of a document line
up and the entries at each address list distinct data ports, a node keeps the ports of its own
entry, unless it is overlooked (`Document.keepsPorts_iff`). A node without direct port is paired as
if it listed the default data port, so it is given the entry at its address that does list this port,
whatever entry stands at its own position (`Document.not_keepsPorts`).
-/

namespace BucketMap

/-- A node and the entry at its position of the second list: their address, the direct port of the
node and the services of the entry. -/
structure Listing where
  address : Text
  direct : Option Int
  services : Services

namespace Listing

def dataPort? (l : Listing) : Option Int := l.services.port? .data

def entry (l : Listing) : Extended := (l.address, l.services)

/-- A member of the node list lists the node. -/
def OfNode (l : Listing) (raw : Json) : Prop :=
  ∃ (fields : Fields) (t : Text) (port : Int), raw = .obj fields ∧ fields.text "hostname" = .ok t ∧
    (Descriptor.read none (.str t)).outcome = .ok ⟨l.address, port⟩ ∧
    directPort fields = .ok l.direct

/-- A member of the second list lists the entry. -/
def OfEntry (l : Listing) (raw : Json) : Prop := (readExtended raw).outcome = .ok (some l.entry)

/-- The node has the ports that the entry lists. -/
def KeptBy (l : Listing) (n : Node) : Prop :=
  ∀ service port, l.services.port? service = some port → n.port? service = some port

/-- The node lists no direct port, and the default data port is listed at its address by another
entry than its own. -/
structure Overlooked (defaults : PortDefaults) (ls : List Listing) (l : Listing) : Prop where
  direct : l.direct = none
  data : l.dataPort? ≠ some defaults.data
  other : ∃ m ∈ ls, m.address = l.address ∧ m.dataPort? = some defaults.data

/-- Every entry lists a data port, different ones at one address, and every direct port is the data
port of the entry. -/
structure ToldApart (ls : List Listing) : Prop where
  data : ∀ l ∈ ls, ∃ port, l.dataPort? = some port
  distinct : ls.Pairwise fun l m => l.address = m.address → l.dataPort? ≠ m.dataPort?
  direct : ∀ l ∈ ls, ∀ port, l.direct = some port → l.dataPort? = some port

/-- The two node lists of a decoded document line up: they list these nodes and entries. -/
def LinedUp (ls : List Listing) (v : Json) : Prop :=
  ∃ (fields : Fields) (nodes : List Json) (entries : Option (List Json)), v = .obj fields ∧
    fields.array "nodes" = .ok nodes ∧ fields.array? "nodesExt" = .ok entries ∧
    List.Forall₂ OfNode ls nodes ∧ List.Forall₂ OfEntry ls (entries.getD [])

/-! ## Pairing -/

/-- The second list as it is read. -/
def extended (ls : List Listing) : List (Option Extended) := ls.map fun l => some l.entry

variable {ls : List Listing} {l m : Listing} {port : Int}

theorem mem_entriesAt_iff {address : Text} {e : Extended} :
    e ∈ entriesAt address (extended ls) ↔ ∃ m ∈ ls, m.address = address ∧ m.entry = e := by
  unfold entriesAt extended
  simp only [List.mem_filter, List.mem_filterMap, List.mem_map, decide_eq_true_eq, id]
  constructor
  · rintro ⟨⟨_, ⟨m, hm, rfl⟩, heq⟩, haddress⟩
    cases heq
    exact ⟨m, hm, haddress, rfl⟩
  · rintro ⟨m, hm, haddress, rfl⟩
    exact ⟨⟨some m.entry, ⟨m, hm, rfl⟩, rfl⟩, haddress⟩

theorem ToldApart.unique (h : ToldApart ls) (hl : l ∈ ls) (hm : m ∈ ls)
    (haddress : m.address = l.address) (hport : m.dataPort? = l.dataPort?) : m = l := by
  by_contra hne
  have hsymm : Std.Symm fun l m : Listing => l.address = m.address → l.dataPort? ≠ m.dataPort? :=
    ⟨fun _ _ hpair heq => (hpair heq.symm).symm⟩
  exact h.distinct.forall hm hl hne haddress hport

/-- An entry is found by its address and data port. -/
theorem ToldApart.find?_eq (h : ToldApart ls) (hm : m ∈ ls) (hport : m.dataPort? = some port) :
    (entriesAt m.address (extended ls)).find? (fun e => Services.port? .data e.2 = some port) =
      some m.entry := by
  cases hfind : (entriesAt m.address (extended ls)).find? fun e =>
      Services.port? .data e.2 = some port with
  | none =>
    have hno := List.find?_eq_none.mp hfind m.entry (mem_entriesAt_iff.mpr ⟨m, hm, rfl, rfl⟩)
    exact absurd (decide_eq_true hport) hno
  | some e =>
    obtain ⟨k, hk, haddress, rfl⟩ := mem_entriesAt_iff.mp (List.mem_of_find?_eq_some hfind)
    have hkport : Services.port? .data k.entry.2 = some port := by
      simpa using List.find?_some hfind
    rw [h.unique hm hk haddress (hkport.trans hport.symm)]

theorem find?_eq_none {address : Text}
    (h : ∀ m ∈ ls, m.address = address → m.dataPort? ≠ some port) :
    (entriesAt address (extended ls)).find? (fun e => Services.port? .data e.2 = some port) =
      none := by
  rw [List.find?_eq_none]
  intro e he
  obtain ⟨m, hm, haddress, rfl⟩ := mem_entriesAt_iff.mp he
  rw [decide_eq_true_eq]
  exact h m hm haddress

theorem entryAtPosition?_eq {position : Nat} (hl : ls[position]? = some l) :
    entryAtPosition? l.address position (extended ls) = some l.entry := by
  unfold entryAtPosition? extended
  rw [List.getElem?_map, hl, Option.map_some]
  exact if_pos rfl

/-- A node that is not overlooked is paired with its own entry. -/
theorem ToldApart.paired?_own (h : ToldApart ls) {defaults : PortDefaults} {position : Nat}
    (hl : ls[position]? = some l) (hown : ¬ Overlooked defaults ls l) :
    paired? l.address (l.direct.getD defaults.data) position (extended ls) = some l.entry := by
  have hmem := List.mem_of_getElem? hl
  by_cases hfound : l.dataPort? = some (l.direct.getD defaults.data)
  · rw [paired?_eq, h.find?_eq hmem hfound]
    rfl
  · -- The node lists no direct port, and its entry not the default one.
    have hnone : l.direct = none := by
      cases hdirect : l.direct with
      | none => rfl
      | some port =>
        rw [hdirect] at hfound
        exact absurd (h.direct l hmem port hdirect) hfound
    rw [hnone] at hfound ⊢
    have hno : ∀ m ∈ ls, m.address = l.address → m.dataPort? ≠ some defaults.data :=
      fun m hm haddress hport => hown ⟨hnone, hfound, m, hm, haddress, hport⟩
    rw [paired?_eq, Option.getD_none, find?_eq_none hno, entryAtPosition?_eq hl]
    rfl

/-- An overlooked node is paired with an entry that lists the default data port. -/
theorem ToldApart.paired?_other (h : ToldApart ls) {defaults : PortDefaults}
    (hother : Overlooked defaults ls l) :
    ∃ m ∈ ls, m.services.port? .data = some defaults.data ∧ ∀ position,
      paired? l.address (l.direct.getD defaults.data) position (extended ls) = some m.entry := by
  obtain ⟨hdirect, -, m, hm, haddress, hport⟩ := hother
  refine ⟨m, hm, hport, fun position => ?_⟩
  rw [hdirect, ← haddress, paired?_eq, Option.getD_none, h.find?_eq hm hport]
  rfl

/-! ## The nodes -/

variable {defaults : PortDefaults} {position : Nat} {raw : Json} {n : Node}

/-- A node has the services of the entry that it is paired with above its own ones. -/
theorem exists_services_of_readNode (hraw : l.OfNode raw)
    (h : (readNode defaults (extended ls) position raw).outcome = .ok n) :
    ∃ own, n.services = mergeServices l.direct own
      (pairedServices l.address (l.direct.getD defaults.data) position (extended ls)) := by
  obtain ⟨fields, t, port, rfl, ht, hd, hdirect⟩ := hraw
  obtain ⟨_, hfields, hnode⟩ := readNode_eq_ok h
  cases hfields
  obtain ⟨⟨d, direct, view⟩, ⟨⟨t', ht', hd'⟩, hdirect', -⟩, -, hservices⟩ := readNodeFields_eq_ok hnode
  cases ht.symm.trans ht'
  cases hd.symm.trans hd'
  cases hdirect.symm.trans hdirect'
  exact ⟨_, hservices⟩

theorem keptBy_of_services {own : Services} (h : ToldApart ls) (hl : l ∈ ls)
    (hdistinct : l.services.Distinct) (hn : n.services = mergeServices l.direct own l.services) :
    l.KeptBy n := by
  intro service port hport
  unfold Node.port?
  rw [hn, hdistinct.port?_merge]
  split
  · rename_i hdata
    subst hdata
    cases hdirect : l.direct with
    | none => rw [Option.none_or, hport, Option.some_or]
    | some d =>
      have hlisted : l.services.port? .data = some d := h.direct l hl d hdirect
      rw [Option.some_or, Option.some_or, ← hlisted, hport]
  · rw [hport, Option.some_or]

theorem keptBy_of_not_overlooked (h : ToldApart ls) (hdistinct : ∀ l ∈ ls, l.services.Distinct)
    (hl : ls[position]? = some l) (hraw : l.OfNode raw)
    (hread : (readNode defaults (extended ls) position raw).outcome = .ok n)
    (hown : ¬ Overlooked defaults ls l) : l.KeptBy n := by
  obtain ⟨own, hn⟩ := exists_services_of_readNode hraw hread
  have hmem := List.mem_of_getElem? hl
  rw [pairedServices_of_paired? (h.paired?_own hl hown)] at hn
  exact keptBy_of_services h hmem (hdistinct l hmem) hn

theorem dataPort_of_overlooked (h : ToldApart ls) (hdistinct : ∀ l ∈ ls, l.services.Distinct)
    (hraw : l.OfNode raw) (hread : (readNode defaults (extended ls) position raw).outcome = .ok n)
    (hother : Overlooked defaults ls l) : n.port? .data = some defaults.data := by
  obtain ⟨own, hn⟩ := exists_services_of_readNode hraw hread
  obtain ⟨m, hm, hport, hpaired⟩ := h.paired?_other hother
  have hentry : m.entry.2 = m.services := rfl
  rw [pairedServices_of_paired? (hpaired position), hother.direct, hentry] at hn
  unfold Node.port?
  rw [hn, (hdistinct m hm).port?_merge, if_pos rfl, Option.none_or, hport, Option.some_or]

theorem keptBy_iff (h : ToldApart ls) (hdistinct : ∀ l ∈ ls, l.services.Distinct)
    (hl : ls[position]? = some l) (hraw : l.OfNode raw)
    (hread : (readNode defaults (extended ls) position raw).outcome = .ok n) :
    (l.KeptBy n ↔ ¬ Overlooked defaults ls l) ∧
      (Overlooked defaults ls l → n.port? .data = some defaults.data) := by
  have hoverlooked := dataPort_of_overlooked h hdistinct hraw hread
  refine ⟨⟨fun hkept hother => ?_, keptBy_of_not_overlooked h hdistinct hl hraw hread⟩, hoverlooked⟩
  obtain ⟨port, hport⟩ := h.data l (List.mem_of_getElem? hl)
  have hsame := (hkept .data port hport).symm.trans (hoverlooked hother)
  exact hother.data (hport.trans hsame)

/-- The second list of a document that lines up. -/
theorem extended_of_readExtendedList {entries : List Json} {read : List (Option Extended)}
    (hls : List.Forall₂ OfEntry ls entries) (h : (readExtendedList entries).outcome = .ok read) :
    read = extended ls ∧ ∀ l ∈ ls, l.services.Distinct := by
  induction hls generalizing read with
  | nil =>
    cases h
    exact ⟨rfl, by simp⟩
  | @cons l entry ls entries hentry _ ih =>
    obtain ⟨first, others, hfirst, hothers, rfl⟩ :=
      List.forall₂_cons_left_iff.mp (readExtendedList_eq_ok_iff.mp h)
    cases hentry.symm.trans hfirst
    obtain ⟨rfl, hdistinct⟩ := ih (readExtendedList_eq_ok_iff.mpr hothers)
    exact ⟨rfl, List.forall_mem_cons.mpr ⟨readExtended_distinct hfirst, hdistinct⟩⟩

end Listing

open Listing

/-- **Nodes that share an address.** Where the entries tell nodes apart, a node keeps the ports of
its entry exactly if it is not overlooked; an overlooked node is given the default data port. -/
theorem Document.keepsPorts_iff {defaults : PortDefaults} {source : Source} {v : Json}
    {doc : Document} {ls : List Listing} (hv : Document.decode source = .ok v)
    (hread : (Document.read defaults source).outcome = .ok doc) (hls : LinedUp ls v)
    (h : ToldApart ls) :
    List.Forall₂ (fun l n => (l.KeptBy n ↔ ¬ Overlooked defaults ls l) ∧
      (Overlooked defaults ls l → n.port? .data = some defaults.data)) ls doc.nodes := by
  obtain ⟨v', hv', hvalue⟩ := Document.read_outcome_eq_ok_iff.mp hread
  cases hv.symm.trans hv'
  obtain ⟨fields, raws, entries, rfl, hraws, hentries, hnodes, hlist⟩ := hls
  obtain ⟨raws', entries', read, hraws', hentries', hextended, hrun⟩ :=
    Document.nodes_of_readFields hvalue
  cases hraws.symm.trans hraws'
  cases hentries.symm.trans hentries'
  obtain ⟨rfl, hdistinct⟩ := extended_of_readExtendedList hlist hextended
  obtain ⟨hlength, hraw⟩ := List.forall₂_iff_get.mp hnodes
  obtain ⟨hlength', hnode⟩ := List.forall₂_iff_get.mp (readNodes_eq_ok_iff.mp hrun)
  rw [List.length_zipIdx] at hlength'
  refine List.forall₂_iff_get.mpr ⟨hlength.trans hlength', fun i hi hi' => ?_⟩
  have hi'' : i < (raws.zipIdx 0).length := by rwa [List.length_zipIdx, ← hlength]
  have hread' := hnode i hi'' hi'
  rw [List.get_eq_getElem, List.getElem_zipIdx, Nat.zero_add] at hread'
  exact keptBy_iff h hdistinct (List.getElem?_eq_getElem hi) (hraw i hi (hlength ▸ hi)) hread'

/-! ### Two nodes at one address -/

namespace Listing

/-- A document with two nodes at one address, whose entries list the data ports 11211 and 11210; the
second node lists no direct port. -/
def twinDocument (firstPorts : Fields) : Json :=
  let host : Text × Json := (Text.ofString "hostname", .str (Text.ofString "a"))
  let entry (port : Int) : Json :=
    .obj [host, (Text.ofString "services", .obj [(Text.ofString "kv", .int port)])]
  .obj (Document.emptyFields.dropLast ++
    [(Text.ofString "nodes", .arr [.obj (host :: firstPorts), .obj [host]]),
      (Text.ofString "nodesExt", .arr [entry 11211, entry 11210])])

/-- What that document lists. -/
def twinListings (direct : Option Int) : List Listing :=
  [⟨Text.ofString "a", direct, [(.data, 11211)]⟩, ⟨Text.ofString "a", none, [(.data, 11210)]⟩]

/-- The direct port of the first node. -/
def directPorts : Fields :=
  [(Text.ofString "ports", .obj [(Text.ofString "direct", .int 11211)])]

theorem linedUp_directed : LinedUp (twinListings (some 11211)) (twinDocument directPorts) :=
  ⟨_, _, _, rfl, rfl, rfl,
    .cons ⟨_, _, 0, rfl, rfl, rfl, rfl⟩ (.cons ⟨_, _, 0, rfl, rfl, rfl, rfl⟩ .nil),
    .cons rfl (.cons rfl .nil)⟩

theorem linedUp_undirected : LinedUp (twinListings none) (twinDocument []) :=
  ⟨_, _, _, rfl, rfl, rfl,
    .cons ⟨_, _, 0, rfl, rfl, rfl, rfl⟩ (.cons ⟨_, _, 0, rfl, rfl, rfl, rfl⟩ .nil),
    .cons rfl (.cons rfl .nil)⟩

theorem toldApart_twinListings {direct : Option Int} (h : ∀ port, direct = some port → port = 11211) :
    ToldApart (twinListings direct) := by
  refine ⟨?_, ?_, ?_⟩
  · intro l hl
    simp only [twinListings, List.mem_cons, List.not_mem_nil, or_false] at hl
    rcases hl with rfl | rfl
    · exact ⟨11211, rfl⟩
    · exact ⟨11210, rfl⟩
  · simp [twinListings, dataPort?, Services.port?]
  · intro l hl port hport
    simp only [twinListings, List.mem_cons, List.not_mem_nil, or_false] at hl
    rcases hl with rfl | rfl
    · rw [h port hport]
      rfl
    · cases hport

end Listing

/-- Both nodes keep the ports of their entries, the first one since it lists its direct port and the
second one since its entry lists the default port. -/
theorem Document.keepsPorts_twins :
    ∃ doc, Document.decode (.value (twinDocument directPorts)) = .ok (twinDocument directPorts) ∧
      (Document.read ⟨11210, 8091⟩ (.value (twinDocument directPorts))).outcome = .ok doc ∧
      LinedUp (twinListings (some 11211)) (twinDocument directPorts) ∧ ToldApart (twinListings (some 11211)) ∧
      List.Forall₂ KeptBy (twinListings (some 11211)) doc.nodes := by
  have hread : ∃ doc, (Document.read ⟨11210, 8091⟩ (.value (twinDocument directPorts))).outcome =
      .ok doc := ⟨_, rfl⟩
  obtain ⟨doc, hdoc⟩ := hread
  have hapart : ToldApart (twinListings (some 11211)) := toldApart_twinListings (by rintro _ ⟨rfl⟩; rfl)
  have hkept := Document.keepsPorts_iff rfl hdoc linedUp_directed hapart
  refine ⟨doc, rfl, hdoc, linedUp_directed, hapart, ?_⟩
  generalize doc.nodes = nodes at hkept ⊢
  unfold twinListings at hkept ⊢
  cases hkept with
  | cons hfirst hothers =>
    cases hothers with
    | cons hsecond hnil =>
      cases hnil
      have hfirst' := hfirst.1.mpr fun hother => by cases hother.direct
      have hsecond' := hsecond.1.mpr fun hother => hother.data rfl
      exact .cons hfirst' (.cons hsecond' .nil)

/-- Nodes that share an address do not always keep their ports. -/
theorem Document.not_keepsPorts :
    ¬ ∀ (defaults : PortDefaults) (source : Source) (v : Json) (doc : Document) (ls : List Listing),
      Document.decode source = .ok v → (Document.read defaults source).outcome = .ok doc →
        LinedUp ls v → ToldApart ls → List.Forall₂ KeptBy ls doc.nodes := by
  intro h
  have hread : ∃ doc, (Document.read ⟨11210, 8091⟩ (.value (twinDocument []))).outcome = .ok doc ∧
      ∃ n rest, doc.nodes = n :: rest ∧ n.port? .data = some 11210 :=
    ⟨_, rfl, _, _, rfl, rfl⟩
  obtain ⟨doc, hdoc, n, rest, hnodes, hport⟩ := hread
  have hkept := h ⟨11210, 8091⟩ (.value (twinDocument [])) _ doc _ rfl hdoc
    linedUp_undirected (toldApart_twinListings (by rintro _ ⟨⟩))
  rw [hnodes] at hkept
  cases hkept with
  | cons hfirst _ =>
    have hown := hfirst .data 11211 rfl
    rw [hport] at hown
    cases hown

end BucketMap
