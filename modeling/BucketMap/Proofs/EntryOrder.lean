import Mathlib.Data.List.Perm.Basic
import BucketMap.Proofs.AcceptedDocuments
import BucketMap.Proofs.ServicePorts

/-!
# The order of the second list

Where every node lists its direct port, and exactly one entry of the second list has this port at
the node's address, that entry is paired with the node wherever it stands
(`OnlyServing.paired?_eq`): the rule for data ports comes before the ones for positions and
addresses. So the document is the same for any order of the second list
(`Document.read_reordered`).
-/

namespace BucketMap

open Json

/-! ## What the second list says at an address -/

/-- The entry lists the data port at the address. -/
def ServesAt (address : Text) (dataPort : Int) (entry : Json) : Prop :=
  ∃ (fields : Fields) (host : Json) (t : Text), entry = .obj fields ∧
    Json.lookup (Text.ofString "hostname") fields = some host ∧ host.display = .ok t ∧
    Address.normalize t = .ok address ∧ PortAt (fields.objectAt "services") .data dataPort

/-- Exactly one place of the list holds a member with the property. -/
def HoldsOnce {α : Type} (P : α → Prop) (xs : List α) : Prop :=
  ∃! place : Fin xs.length, P xs[place]

/-- Each member of the node list has a direct port, and exactly one member of the second list has
this port at the address of the node. -/
def ToldByPorts (fields : Fields) : Prop :=
  ∀ raw ∈ fields.arrayAt "nodes", ∃ (members : Fields) (t : Text) (d : Descriptor) (port : Int),
    raw = .obj members ∧ members.given? "hostname" = some (.str t) ∧
    (Descriptor.read none (.str t)).outcome = .ok d ∧ DirectPort members (some port) ∧
    HoldsOnce (ServesAt d.address port) (fields.arrayAt "nodesExt")

/-- The fields are the same, except for the order of the second list. -/
structure Reordered (fields fields' : Fields) : Prop where
  others : ∀ key, key ≠ Text.ofString "nodesExt" → Json.lookup key fields' = Json.lookup key fields
  entries : ∃ items items', fields.given? "nodesExt" = some (.arr items) ∧
    fields'.given? "nodesExt" = some (.arr items') ∧ items'.Perm items

theorem SaidByEntry.servesAt_iff {address : Text} {dataPort : Int} {entry : Json}
    {slot : Option Extended} (h : SaidByEntry entry slot) :
    ServesAt address dataPort entry ↔ ∃ e ∈ slot, e.Serves address dataPort := by
  cases h with
  | hostless hno =>
    constructor
    · rintro ⟨fields, host, t, rfl, hhost, -⟩
      exact absurd hhost (hno fields host rfl)
    · rintro ⟨e, he, -⟩
      cases he
  | @listed fields host t e hhost ht haddress hports =>
    constructor
    · rintro ⟨fields', host', t', hfields, hhost', ht', haddress', hport⟩
      cases hfields
      cases hhost.symm.trans hhost'
      cases ht.symm.trans ht'
      have hsame := Except.ok.inj (haddress.symm.trans haddress')
      exact ⟨e, rfl, hsame, (hports _ _).mpr hport⟩
    · rintro ⟨e', he, hsame, hport⟩
      cases he
      cases hsame
      exact ⟨fields, host, t, rfl, hhost, ht, haddress, (hports _ _).mp hport⟩

/-! ## Pairing -/

variable {address : Text} {dataPort : Int} {slots slots' : List (Option Extended)} {e : Extended}

/-- Only this entry of the second list has the data port at the address. -/
def OnlyServing (address : Text) (dataPort : Int) (slots : List (Option Extended)) (e : Extended) :
    Prop :=
  some e ∈ slots ∧ e.Serves address dataPort ∧
    ∀ e', some e' ∈ slots → e'.Serves address dataPort → e' = e

theorem OnlyServing.of_perm (h : OnlyServing address dataPort slots e) (hperm : slots'.Perm slots) :
    OnlyServing address dataPort slots' e := by
  obtain ⟨hmem, hserves, honly⟩ := h
  exact ⟨hperm.mem_iff.mpr hmem, hserves, fun e' he' => honly e' (hperm.mem_iff.mp he')⟩

/-- The only entry with the data port at the address is found from any position. -/
theorem OnlyServing.paired?_eq (h : OnlyServing address dataPort slots e) (position : Nat) :
    paired? address dataPort position slots = some e := by
  obtain ⟨hmem, hserves, honly⟩ := h
  rw [BucketMap.paired?_eq, find?_entriesAt]
  cases hfind : (slots.filterMap id).find? fun e => decide (e.Serves address dataPort) with
  | none =>
    have hno := List.find?_eq_none.mp hfind e (List.mem_filterMap.mpr ⟨_, hmem, rfl⟩)
    exact absurd (decide_eq_true hserves) hno
  | some e' =>
    obtain ⟨_, hmem', rfl⟩ := List.mem_filterMap.mp (List.mem_of_find?_eq_some hfind)
    have hserves' : e'.Serves address dataPort := by simpa using List.find?_some hfind
    rw [honly e' hmem' hserves']
    rfl

theorem HoldsOnce.of_forall₂ {α β : Type} {R : α → β → Prop} {P : α → Prop} {Q : β → Prop}
    {xs : List α} {ys : List β} (h : HoldsOnce P xs) (hxys : List.Forall₂ R xs ys)
    (hR : ∀ x y, R x y → (P x ↔ Q y)) : HoldsOnce Q ys := by
  obtain ⟨⟨i, hi⟩, hP, honly⟩ := h
  obtain ⟨hlength, hat⟩ := List.forall₂_iff_get.mp hxys
  refine ⟨⟨i, hlength ▸ hi⟩, (hR _ _ (hat i hi _)).mp hP, ?_⟩
  rintro ⟨j, hj⟩ hQ
  have hplace := honly ⟨j, hlength ▸ hj⟩ ((hR _ _ (hat j _ hj)).mpr hQ)
  cases hplace
  rfl

theorem HoldsOnce.exists_only {α : Type} {P : α → Prop} {xs : List α} (h : HoldsOnce P xs) :
    ∃ x ∈ xs, P x ∧ ∀ y ∈ xs, P y → y = x := by
  obtain ⟨place, hP, honly⟩ := h
  refine ⟨xs[place], List.getElem_mem place.isLt, hP, fun y hy hPy => ?_⟩
  obtain ⟨j, hj, rfl⟩ := List.getElem_of_mem hy
  cases honly ⟨j, hj⟩ hPy
  rfl

theorem HoldsOnce.exists_onlyServing {entries : List Json}
    (h : HoldsOnce (ServesAt address dataPort) entries)
    (hread : List.Forall₂ SaidByEntry entries slots) :
    ∃ e, OnlyServing address dataPort slots e := by
  obtain ⟨slot, hmem, ⟨e, rfl, hserves⟩, honly⟩ :=
    (h.of_forall₂ hread fun _ _ hsaid => hsaid.servesAt_iff).exists_only
  refine ⟨e, hmem, hserves, fun e' hmem' hserves' => ?_⟩
  exact Option.some.inj (honly _ hmem' ⟨e', rfl, hserves'⟩)

/-! ## The nodes -/

variable {defaults : PortDefaults} {position : Nat} {raw : Json}

theorem directPort_of_listed {members : Fields} {port : Int}
    (h : DirectPort members (some port)) : directPort members = .ok (some port) := by
  cases h with
  | listed hgiven hport =>
    unfold Fields.objectAt at hgiven
    split at hgiven
    · rename_i ports hports
      -- An object with a field is not taken for nothing.
      have hsome : (Json.obj ports).isFalsy = false := by
        cases ports with
        | nil => cases hgiven
        | cons field ports => rfl
      unfold directPort readMembers
      dsimp only
      rw [hports, Option.getD_some, hsome]
      dsimp only
      rw [if_neg Bool.false_ne_true, directOf, hgiven]
      dsimp only
      rw [hport]
    · cases hgiven

/-- A node depends on the second list through the entry that is paired with it only. -/
theorem readNodeFields_congr {members : Fields} {t : Text} {d : Descriptor} {direct : Option Int}
    (ht : members.text "hostname" = .ok t)
    (hd : (Descriptor.read none (.str t)).outcome = .ok d)
    (hdirect : directPort members = .ok direct)
    (hpaired : paired? d.address (direct.getD defaults.data) position slots' =
      paired? d.address (direct.getD defaults.data) position slots) :
    (readNodeFields defaults slots' position members).outcome =
      (readNodeFields defaults slots position members).outcome := by
  have hhost : (Run.ofExcept (members.text "hostname")).outcome = .ok t := ht
  unfold readNodeFields pairedServices
  rw [Run.outcome_bind_of_ok hhost, Run.outcome_bind_of_ok hhost, Run.outcome_bind_of_ok hd,
    Run.outcome_bind_of_ok hd, hdirect]
  dsimp only
  rw [hpaired]

theorem readNodes_congr {raws : List Json} (h : ∀ raw ∈ raws, ∀ position,
      (readNode defaults slots' position raw).outcome =
        (readNode defaults slots position raw).outcome) (position : Nat) :
    (readNodes defaults slots' position raws).outcome =
      (readNodes defaults slots position raws).outcome := by
  induction raws generalizing position with
  | nil => rfl
  | cons raw raws ih =>
    obtain ⟨hfirst, hothers⟩ := List.forall_mem_cons.mp h
    rw [readNodes, readNodes, Run.outcome_bind, Run.outcome_bind, hfirst]
    simp only [Run.outcome_bind, ih hothers]

theorem ToldByPorts.readNode_eq {fields : Fields} (h : ToldByPorts fields)
    (hread : List.Forall₂ SaidByEntry (fields.arrayAt "nodesExt") slots)
    (hperm : slots'.Perm slots) (hraw : raw ∈ fields.arrayAt "nodes") (position : Nat) :
    (readNode defaults slots' position raw).outcome =
      (readNode defaults slots position raw).outcome := by
  obtain ⟨members, t, d, port, rfl, ht, hd, hdirect, honce⟩ := h raw hraw
  obtain ⟨e, hserving⟩ := honce.exists_onlyServing hread
  apply readNodeFields_congr (Fields.text_eq_ok_iff.mpr ht) hd (directPort_of_listed hdirect)
  rw [Option.getD_some, hserving.paired?_eq position,
    (hserving.of_perm hperm).paired?_eq position]

/-! ## The document -/

theorem exists_readExtendedList_of_perm {items items' : List Json} (hperm : items'.Perm items)
    (hslots : (readExtendedList items).outcome = .ok slots) :
    ∃ slots', (readExtendedList items').outcome = .ok slots' ∧ slots'.Perm slots := by
  obtain ⟨slots', hslots', hperm'⟩ :=
    List.perm_comp_forall₂ hperm (readExtendedList_eq_ok_iff.mp hslots)
  exact ⟨slots', readExtendedList_eq_ok_iff.mpr hslots', hperm'⟩

namespace Reordered

variable {fields fields' : Fields} {key : String} {α : Type} (h : Reordered fields fields')
  (hkey : Text.ofString key ≠ Text.ofString "nodesExt")

include h hkey

theorem sameAt : SameAt key fields fields' := by
  unfold SameAt Fields.given?
  rw [h.others _ hkey]

theorem required_eq (kind? : Json → Option α) :
    fields'.required key kind? = fields.required key kind? :=
  (h.sameAt hkey).required_eq kind?

theorem optional_eq (kind? : Json → Option α) :
    fields'.optional key kind? = fields.optional key kind? :=
  (h.sameAt hkey).optional_eq kind?

end Reordered

namespace Document

variable {fields fields' : Fields} {doc : Document} {source source' : Source}

theorem readCapabilities_reordered (h : Reordered fields fields') :
    readCapabilities fields' = readCapabilities fields := by
  unfold readCapabilities Fields.array?
  rw [h.optional_eq (by decide)]

theorem readFields_reordered (h : Reordered fields fields') (htold : ToldByPorts fields)
    (hread : (readFields defaults fields).outcome = .ok doc) :
    (readFields defaults fields').outcome = .ok doc := by
  obtain ⟨items, items', hitems, hitems', hperm⟩ := h.entries
  unfold readFields at hread ⊢
  simp only [Run.outcome_bind_eq_ok_iff, Run.outcome_ofExcept] at hread ⊢
  obtain ⟨rev, hrev, name, hname, serverMap, hmap, layout, hlayout, raws, hraws, entries, hentries,
    slots, hslots, nodes, hnodes, capabilities, hcapabilities, uri, huri, streamingUri, hstreaming,
    hdone⟩ := hread
  -- The second list is read in its new order, and the nodes are the same.
  have hentries' : fields.array? "nodesExt" = .ok (some items) := Fields.array?_eq_ok_iff.mpr hitems
  cases hentries'.symm.trans hentries
  obtain ⟨slots', hslots', hpermuted⟩ := exists_readExtendedList_of_perm hperm hslots
  have hsaid : List.Forall₂ SaidByEntry (fields.arrayAt "nodesExt") slots := by
    rw [Fields.arrayAt_of_array? hentries']
    exact (readExtendedList_eq_ok_iff.mp hslots).imp fun _ _ => saidByEntry_of_readExtended
  have hsame : ∀ raw ∈ raws, ∀ position, (readNode defaults slots' position raw).outcome =
      (readNode defaults slots position raw).outcome := by
    rw [← Fields.arrayAt_of_array hraws]
    exact fun raw hraw position => htold.readNode_eq hsaid hpermuted hraw position
  have hnodes' : (readNodes defaults slots' 0 raws).outcome = .ok nodes :=
    (readNodes_congr hsame 0).trans hnodes
  exact ⟨rev, (h.required_eq (by decide) _).trans hrev, name,
    (h.required_eq (by decide) _).trans hname, serverMap, (h.required_eq (by decide) _).trans hmap,
    layout, hlayout, raws, (h.required_eq (by decide) _).trans hraws, some items',
    Fields.array?_eq_ok_iff.mpr hitems', slots', hslots', nodes, hnodes', capabilities,
    (readCapabilities_reordered h).trans hcapabilities, uri,
    (h.optional_eq (by decide) _).trans huri, streamingUri,
    (h.optional_eq (by decide) _).trans hstreaming, hdone⟩

/-- **The order of the second list.** Where direct ports tell which entry belongs to which node, the
document is the same for any order of the second list. -/
theorem read_reordered (hv : decode source = .ok (.obj fields))
    (hv' : decode source' = .ok (.obj fields')) (h : Reordered fields fields')
    (htold : ToldByPorts fields) (hread : (read defaults source).outcome = .ok doc) :
    (read defaults source').outcome = .ok doc := by
  obtain ⟨v, hv'', hvalue⟩ := read_outcome_eq_ok_iff.mp hread
  cases hv.symm.trans hv''
  exact read_outcome_eq_ok_iff.mpr ⟨_, hv', readFields_reordered h htold hvalue⟩

/-! ### Two nodes at one address -/

/-- The fields of a document with two nodes at one address, whose second list has these members. -/
def sharedFields (entries : List Json) : Fields :=
  let host : Text × Json := (Text.ofString "hostname", .str (Text.ofString "a"))
  let node (port : Int) : Json :=
    .obj [host, (Text.ofString "ports", .obj [(Text.ofString "direct", .int port)])]
  emptyFields.dropLast ++ [(Text.ofString "nodes", .arr [node 1, node 2]),
    (Text.ofString "nodesExt", .arr entries)]

/-- An entry with a data port and a port for queries. -/
def sharedEntry (host : String) (data query : Int) : Json :=
  .obj [(Text.ofString "hostname", .str (Text.ofString host)), (Text.ofString "services",
    .obj [(Text.ofString "kv", .int data), (Text.ofString "n1ql", .int query)])]

/-- Entries in the order of the nodes, with one at another address and one without host. -/
def sharedEntries : List Json :=
  [sharedEntry "a" 1 10, sharedEntry "a" 2 20, sharedEntry "b" 1 30, .obj []]

theorem reordered_sharedFields :
    Reordered (sharedFields sharedEntries) (sharedFields sharedEntries.reverse) := by
  constructor
  · intro key hkey
    simp [sharedFields, emptyFields, Json.lookup, Ne.symm hkey]
  · exact ⟨_, _, rfl, rfl, sharedEntries.reverse_perm⟩

theorem toldByPorts_sharedFields : ToldByPorts (sharedFields sharedEntries) := by
  have hslots : ∃ slots, (readExtendedList sharedEntries).outcome = .ok slots ∧
      HoldsOnce (fun slot => ∃ e ∈ slot, Extended.Serves (Text.ofString "a") 1 e) slots ∧
      HoldsOnce (fun slot => ∃ e ∈ slot, Extended.Serves (Text.ofString "a") 2 e) slots :=
    ⟨_, rfl, ⟨⟨0, by decide⟩, by decide, by decide⟩, ⟨⟨1, by decide⟩, by decide, by decide⟩⟩
  obtain ⟨slots, hread, hfirst, hsecond⟩ := hslots
  have hsaid : List.Forall₂ (flip SaidByEntry) slots sharedEntries :=
    ((readExtendedList_eq_ok_iff.mp hread).imp fun _ _ => saidByEntry_of_readExtended).flip
  intro raw hraw
  rcases List.mem_pair.mp hraw with rfl | rfl
  · exact ⟨_, _, _, 1, rfl, rfl, rfl, .listed rfl rfl,
      hfirst.of_forall₂ hsaid fun _ _ h => (SaidByEntry.servesAt_iff h).symm⟩
  · exact ⟨_, _, _, 2, rfl, rfl, rfl, .listed rfl rfl,
      hsecond.of_forall₂ hsaid fun _ _ h => (SaidByEntry.servesAt_iff h).symm⟩

/-- In the reversed list no entry stands at the position of its node. -/
theorem read_reordered_shared :
    let listed : Json := .obj (sharedFields sharedEntries)
    let reversed : Json := .obj (sharedFields sharedEntries.reverse)
    ∃ doc, decode (.value listed) = .ok listed ∧ decode (.value reversed) = .ok reversed ∧
      Reordered (sharedFields sharedEntries) (sharedFields sharedEntries.reverse) ∧
      ToldByPorts (sharedFields sharedEntries) ∧
      (read ⟨11210, 8091⟩ (.value listed)).outcome = .ok doc ∧
      (read ⟨11210, 8091⟩ (.value reversed)).outcome = .ok doc ∧
      doc.nodes.map (fun n => n.port? .query) = [some 10, some 20] := by
  intro listed reversed
  have hread : ∃ doc, (read ⟨11210, 8091⟩ (.value listed)).outcome = .ok doc ∧
      doc.nodes.map (fun n => n.port? .query) = [some 10, some 20] := ⟨_, rfl, rfl⟩
  obtain ⟨doc, hdoc, hports⟩ := hread
  have hlisted : decode (.value listed) = .ok listed := rfl
  have hreversed : decode (.value reversed) = .ok reversed := rfl
  have hsame :=
    read_reordered hlisted hreversed reordered_sharedFields toldByPorts_sharedFields hdoc
  exact ⟨doc, hlisted, hreversed, reordered_sharedFields, toldByPorts_sharedFields, hdoc, hsame,
    hports⟩

end Document

end BucketMap
