import BucketMap.Proofs.AcceptedNodes

/-!
# Ports of the nodes that are read

What a document that was read says about its nodes: there is one for each member of the node list
(`readNodes_eq_ok_iff`), at the address of its descriptor, with its own ports under those of the
entry that belongs to it (`readNodeFields_eq_ok`). An entry lists each service once
(`readExtended_distinct`), so that the port of a service is the one of the entry if that lists the
service, and the one of the node otherwise; the direct port stands above both
(`Services.Distinct.port?_merge`).
-/

namespace BucketMap

/-! ## Services in layers -/

namespace Services

/-- Each service is listed once. -/
def Distinct (services : Services) : Prop := (services.map Prod.fst).Nodup

theorem mem_map_fst_set {s service : Service} {port : Int} {services : Services} :
    s ∈ (services.set service port).map Prod.fst ↔ s = service ∨ s ∈ services.map Prod.fst := by
  induction services with
  | nil => simp [set]
  | cons e services ih =>
    rw [set]
    split
    · rename_i heq
      simp [heq]
    · rw [List.map_cons, List.mem_cons, ih, List.map_cons, List.mem_cons]
      exact or_left_comm

theorem Distinct.set {services : Services} (h : services.Distinct) (service : Service) (port : Int) :
    (services.set service port).Distinct := by
  induction services with
  | nil => exact List.nodup_singleton service
  | cons e services ih =>
    obtain ⟨hfirst, hothers⟩ := List.nodup_cons.mp h
    rw [Services.set]
    split
    · exact h
    · rename_i hne
      refine List.nodup_cons.mpr ⟨?_, ih hothers⟩
      rw [mem_map_fst_set, not_or]
      exact ⟨hne, hfirst⟩

theorem port?_eq_none_iff {service : Service} {services : Services} :
    services.port? service = none ↔ service ∉ services.map Prod.fst := by
  induction services with
  | nil => simp [port?]
  | cons e services ih =>
    rw [port?, List.map_cons, List.mem_cons, not_or]
    split
    · rename_i heq
      simp [heq]
    · rename_i hne
      rw [ih]
      exact (and_iff_right (Ne.symm hne)).symm

/-- The ports of the second list stand above those of the first one. -/
theorem Distinct.port?_update {others : Services} (h : others.Distinct) (services : Services)
    (service : Service) :
    (services.update others).port? service = (others.port? service).or (services.port? service) := by
  unfold update
  induction others generalizing services with
  | nil => rfl
  | cons e others ih =>
    obtain ⟨hfirst, hothers⟩ := List.nodup_cons.mp h
    rw [List.foldl_cons, ih hothers, port?_set, port?]
    split
    · rename_i heq
      rw [heq] at hfirst
      rw [port?_eq_none_iff.mpr hfirst]
      rfl
    · rfl

theorem Distinct.port?_merge {entry : Services} (h : entry.Distinct) (direct : Option Int)
    (own : Services) (service : Service) :
    (mergeServices direct own entry).port? service =
      if service = .data then (direct.or (entry.port? .data)).or (own.port? .data)
      else (entry.port? service).or (own.port? service) := by
  unfold mergeServices
  dsimp only
  cases direct with
  | none =>
    rw [h.port?_update]
    split
    · rename_i heq
      rw [heq, Option.none_or]
    · rfl
  | some port =>
    dsimp only
    rw [port?_set, h.port?_update]
    by_cases hdata : service = .data
    · rw [if_pos hdata, if_pos hdata.symm]
      rfl
    · rw [if_neg hdata, if_neg (Ne.symm hdata)]

end Services

/-! ## Entries of the second list -/

theorem readServices_distinct {services out : Services} {members : Fields}
    (hs : services.Distinct) (h : readServices services members = .ok out) : out.Distinct := by
  induction members generalizing services with
  | nil =>
    cases h
    exact hs
  | cons field members ih =>
    rw [readServices] at h
    split at h
    · exact ih hs h
    · split at h
      · exact ih (hs.set _ _) h
      · cases h

theorem servicesOf_distinct {fields : Fields} {services : Services}
    (h : servicesOf fields = .ok services) : services.Distinct := by
  have hempty : Services.Distinct [] := List.nodup_nil
  exact readServices_distinct hempty (read_objectAt h)

/-- An entry with a host that was read. -/
theorem readExtended_eq_some {entry : Json} {e : Extended}
    (h : (readExtended entry).outcome = .ok (some e)) :
    ∃ fields host, hostOf? entry = some (fields, host) ∧ servicesOf fields = .ok e.2 ∧
      extendedAddress host = .ok e.1 := by
  unfold readExtended at h
  split at h
  · obtain ⟨_, -, hnone⟩ := Run.outcome_bind_eq_ok_iff.mp h
    cases hnone
  · rename_i fields host hhost
    split at h
    · cases h
    · rename_i services hservices
      obtain ⟨address, haddress, hsome⟩ := Run.outcome_bind_eq_ok_iff.mp h
      cases hsome
      exact ⟨fields, host, hhost, hservices, haddress⟩

theorem readExtended_distinct {entry : Json} {e : Extended}
    (h : (readExtended entry).outcome = .ok (some e)) : e.2.Distinct := by
  obtain ⟨_, _, -, hservices, -⟩ := readExtended_eq_some h
  exact servicesOf_distinct hservices

theorem readExtendedList_eq_ok_iff {entries : List Json} {extended : List (Option Extended)} :
    (readExtendedList entries).outcome = .ok extended ↔
      List.Forall₂ (fun entry e => (readExtended entry).outcome = .ok e) entries extended := by
  induction entries generalizing extended with
  | nil => simp [readExtendedList, eq_comm]
  | cons entry entries ih =>
    rw [readExtendedList, Run.outcome_bind_eq_ok_iff, List.forall₂_cons_left_iff]
    simp only [Run.outcome_bind_eq_ok_iff, ih]
    constructor
    · rintro ⟨first, hfirst, others, hothers, heq⟩
      cases heq
      exact ⟨first, others, hfirst, hothers, rfl⟩
    · rintro ⟨first, others, hfirst, hothers, rfl⟩
      exact ⟨first, hfirst, others, hothers, rfl⟩

/-- The rules of pairing, one after the other. -/
theorem paired?_eq (address : Text) (dataPort : Int) (position : Nat)
    (extended : List (Option Extended)) :
    paired? address dataPort position extended =
      ((entriesAt address extended).find? fun e => Services.port? .data e.2 = some dataPort).or
        ((entryAtPosition? address position extended).or (only? (entriesAt address extended))) := by
  unfold paired?
  dsimp only
  split
  · rename_i h
    rw [h]
    rfl
  · rename_i h
    rw [h, Option.none_or]
    split
    · rename_i h
      rw [h]
      rfl
    · rename_i h
      rw [h]
      rfl

theorem pairedServices_of_paired? {address : Text} {dataPort : Int} {position : Nat}
    {extended : List (Option Extended)} {e : Extended}
    (h : paired? address dataPort position extended = some e) :
    pairedServices address dataPort position extended = e.2 := by
  unfold pairedServices
  rw [h]

/-! ## The nodes -/

/-- What the fields of a node say: its host, its direct port and the port of its view engine. -/
structure NodeFields where
  host : Descriptor
  direct : Option Int
  view : Option Int

/-- The fields of a node say this. -/
structure NodeFields.ReadFrom (fields : Fields) (e : NodeFields) : Prop where
  host : ∃ t, fields.text "hostname" = .ok t ∧
    (Descriptor.read none (.str t)).outcome = .ok e.host
  direct : directPort fields = .ok e.direct
  view : (viewPort fields).outcome = .ok (.ok e.view)

/-- The services of a node at a position of the node list. -/
def NodeFields.services (defaults : PortDefaults) (extended : List (Option Extended))
    (position : Nat) (e : NodeFields) : Services :=
  mergeServices e.direct (ownServices defaults e.host.port e.direct e.view)
    (pairedServices e.host.address (e.direct.getD defaults.data) position extended)

variable {defaults : PortDefaults} {extended : List (Option Extended)} {position : Nat}

theorem readNodeFields_eq_ok {fields : Fields} {n : Node}
    (h : (readNodeFields defaults extended position fields).outcome = .ok n) :
    ∃ e, NodeFields.ReadFrom fields e ∧ Address.normalize e.host.address = .ok n.hostname ∧
      n.services = e.services defaults extended position := by
  unfold readNodeFields at h
  obtain ⟨t, ht, h⟩ := Run.outcome_bind_eq_ok_iff.mp h
  obtain ⟨d, hd, h⟩ := Run.outcome_bind_eq_ok_iff.mp h
  split at h
  · cases h
  rename_i direct hdirect
  obtain ⟨view, hview, h⟩ := Run.outcome_bind_eq_ok_iff.mp h
  cases view with
  | error fault => cases h
  | ok view =>
    obtain ⟨-, -, h⟩ := Run.outcome_bind_eq_ok_iff.mp h
    rw [Run.outcome_ofExcept] at h
    refine ⟨⟨d, direct, view⟩, ⟨⟨t, ht, hd⟩, hdirect, hview⟩, ?_⟩
    unfold Node.of at h
    split at h
    · rename_i hostname hhostname
      cases h
      exact ⟨hhostname, rfl⟩
    · cases h

theorem readNode_eq_ok {raw : Json} {n : Node}
    (h : (readNode defaults extended position raw).outcome = .ok n) :
    ∃ fields, raw = .obj fields ∧
      (readNodeFields defaults extended position fields).outcome = .ok n := by
  unfold readNode at h
  split at h
  · exact ⟨_, rfl, h⟩
  · cases h

theorem readNodes_eq_ok_iff {raws : List Json} {nodes : List Node} :
    (readNodes defaults extended position raws).outcome = .ok nodes ↔
      List.Forall₂ (fun raw n => (readNode defaults extended raw.2 raw.1).outcome = .ok n)
        (raws.zipIdx position) nodes := by
  induction raws generalizing position nodes with
  | nil => simp [readNodes, eq_comm]
  | cons raw raws ih =>
    rw [readNodes, Run.outcome_bind_eq_ok_iff, List.zipIdx_cons, List.forall₂_cons_left_iff]
    simp only [Run.outcome_bind_eq_ok_iff, ih]
    constructor
    · rintro ⟨first, hfirst, others, hothers, heq⟩
      cases heq
      exact ⟨first, others, hfirst, hothers, rfl⟩
    · rintro ⟨first, others, hfirst, hothers, rfl⟩
      exact ⟨first, hfirst, others, hothers, rfl⟩

/-- The nodes of a document come from its two node lists. -/
theorem Document.nodes_of_readFields {fields : Fields} {doc : Document}
    (h : (Document.readFields defaults fields).outcome = .ok doc) :
    ∃ raws entries extended, fields.array "nodes" = .ok raws ∧
      fields.array? "nodesExt" = .ok entries ∧
      (readExtendedList (entries.getD [])).outcome = .ok extended ∧
      (readNodes defaults extended 0 raws).outcome = .ok doc.nodes := by
  unfold Document.readFields at h
  iterate 4 obtain ⟨_, -, h⟩ := Run.outcome_bind_eq_ok_iff.mp h
  obtain ⟨raws, hraws, h⟩ := Run.outcome_bind_eq_ok_iff.mp h
  obtain ⟨entries, hentries, h⟩ := Run.outcome_bind_eq_ok_iff.mp h
  obtain ⟨extended, hextended, h⟩ := Run.outcome_bind_eq_ok_iff.mp h
  obtain ⟨nodes, hnodes, h⟩ := Run.outcome_bind_eq_ok_iff.mp h
  iterate 4 obtain ⟨_, -, h⟩ := Run.outcome_bind_eq_ok_iff.mp h
  cases h
  exact ⟨raws, entries, extended, hraws, hentries, hextended, hnodes⟩

end BucketMap
