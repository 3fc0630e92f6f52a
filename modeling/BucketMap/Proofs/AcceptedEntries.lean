import BucketMap.Proofs.AcceptedMaps
import BucketMap.Proofs.Descriptor

/-!
# Reading the second node list

Which entries of the second node list are accepted (`verdict_readExtendedList`): one without host
is skipped, and one with a host needs services whose known ports stand for integers, and a host
whose text has a normal form. The services are read first, so an infinite port comes before a host
without normal form.
-/

namespace BucketMap

open Json

/-! ## Services -/

/-- All ports can be written. -/
def Services.Writable (services : Services) : Prop := ∀ e ∈ services, Numeral.Writable e.2

theorem Services.Writable.set {services : Services} (h : services.Writable) (service : Service)
    {port : Int} (hp : Numeral.Writable port) : (services.set service port).Writable := by
  unfold Writable at h ⊢
  induction services with
  | nil => simpa [Services.set] using hp
  | cons e services ih =>
    obtain ⟨hfirst, hothers⟩ := List.forall_mem_cons.mp h
    rw [Services.set]
    split
    · exact List.forall_mem_cons.mpr ⟨hp, hothers⟩
    · exact List.forall_mem_cons.mpr ⟨hfirst, ih hothers⟩

theorem servicesWellFormed_cons {field : Text × Json} {members : Fields} :
    ServicesWellFormed (field :: members) ↔
      (IsPort field → field.2.StandsForInteger) ∧ ServicesWellFormed members := by
  unfold ServicesWellFormed
  rw [List.forall_mem_cons]

theorem verdict_readServices (services : Services) (members : Fields) :
    Verdict (readServices services members) (ServicesWellFormed members)
      (ServicesOverflowing members) := by
  induction members generalizing services with
  | nil => exact verdict_nil _
  | cons field members ih =>
    obtain ⟨key, value⟩ := field
    rw [servicesWellFormed_cons, ServicesOverflowing, firstFault_cons]
    rw [readServices]
    cases hservice : Service.ofKey? key with
    | none =>
      have hno : ¬ IsPort (key, value) := by simp [IsPort, hservice]
      exact (ih services).congr (by simp [hno]) (by simp [hno, ServicesOverflowing])
    | some service =>
      have hport : IsPort (key, value) := ⟨service, hservice⟩
      simp only [hport, true_implies, true_and]
      apply (verdict_toInt value).across
      · intro port hp
        rw [hp]
        exact ih _
      · intro hinfinite
        rw [hinfinite]
        rfl
      · intro e he hother
        rw [he]
        exact verdict_refusal (by simpa [Faults.infinite] using hother) trivial

theorem readServices_writable {services out : Services} {members : Fields}
    (hs : services.Writable) (hm : ∀ field ∈ members, field.2.Admissible)
    (h : readServices services members = .ok out) : out.Writable := by
  induction members generalizing services with
  | nil =>
    cases h
    exact hs
  | cons field members ih =>
    obtain ⟨hfield, hmembers⟩ := List.forall_mem_cons.mp hm
    obtain ⟨key, value⟩ := field
    rw [readServices] at h
    split at h
    · exact ih hs hmembers h
    · split at h
      · rename_i port hport
        exact ih (hs.set _ (hfield.writable_toInt hport)) hmembers h
      · cases h

/-! ## Objects at a key -/

variable {α : Type} {fields : Fields}

namespace Fields

/-- The fields of the object at a key. Any other value counts as an empty object. -/
def objectAt (fields : Fields) (key : String) : Fields :=
  match fields.given? key with
  | some (.obj members) => members
  | _ => []

theorem admissible_objectAt (hf : (Json.obj fields).Admissible) (key : String) :
    (Json.obj (fields.objectAt key)).Admissible := by
  unfold objectAt
  split
  · rename_i hgiven
    exact admissible_of_given? hf hgiven
  · exact admissible_obj_iff.mpr (by simp)

end Fields

theorem optional_falsyOr_iff {key : String} {P : Json → Prop} :
    Fields.Optional fields key (FalsyOr P) ↔ FalsyOr P ((fields.given? key).getD .null) := by
  unfold Fields.Optional
  cases fields.given? key with
  | none => simp [FalsyOr, isFalsy]
  | some v => simp

theorem required_iff_getD {key : String} {P : Json → Prop} (hnull : ¬ P .null) :
    Fields.Required fields key P ↔ P ((fields.given? key).getD .null) := by
  unfold Fields.Required
  cases fields.given? key with
  | none => simp [hnull]
  | some v => simp

section Members

variable {key : String} {refusal : Json.Kind → PortFault}
  {read : Fields → Except PortFault α}

/-- An empty object is accepted like a value that stands for nothing, so only a reader that accepts
it has this verdict. -/
theorem verdict_readMembers {P Q : Fields → Prop} (hne : ∀ kind, refusal kind ≠ .integer .infinite)
    (hread : ∀ members, Verdict (read members) (P members) (Q members)) (hempty : P []) :
    Verdict (readMembers fields key refusal read)
      (Fields.Optional fields key (FalsyOr (ObjectWith P)))
      (Fields.Required fields key (ObjectWith Q)) := by
  have hnever : ¬ Q [] := by
    intro hstop
    obtain ⟨a, ha⟩ := (hread []).accepts_iff.mpr hempty
    rw [(hread []).stops_iff.mpr hstop] at ha
    cases ha
  rw [optional_falsyOr_iff, required_iff_getD (by simp [ObjectWith])]
  unfold readMembers
  dsimp only
  generalize (fields.given? key).getD .null = v
  by_cases hfalsy : v.isFalsy = true
  · rw [if_pos hfalsy]
    refine (hread []).congr (iff_of_true hempty (.inl hfalsy)) (iff_of_false hnever ?_)
    rintro ⟨members, rfl, hstop⟩
    have hnil : members = [] := by simpa [isFalsy] using hfalsy
    rw [hnil] at hstop
    exact hnever hstop
  · rw [if_neg hfalsy]
    simp only [FalsyOr, hfalsy, Bool.false_eq_true, false_or]
    cases v with
    | obj members => simpa only [objectWith_obj_iff] using hread members
    | _ =>
      exact Verdict.congr (verdict_refusal (hne _) trivial) (by simp [ObjectWith])
        (by simp [ObjectWith])

theorem read_objectAt {a : α} (h : readMembers fields key refusal read = .ok a) :
    read (fields.objectAt key) = .ok a := by
  unfold readMembers at h
  unfold Fields.objectAt
  dsimp only at h
  cases hv : fields.given? key with
  | none =>
    rw [hv] at h
    exact h
  | some v =>
    rw [hv, Option.getD_some] at h
    cases v with
    | obj members =>
      dsimp only at h ⊢
      split at h
      · rename_i hfalsy
        have hnil : members = [] := by simpa [isFalsy] using hfalsy
        rw [hnil]
        exact h
      · exact h
    | _ =>
      dsimp only at h ⊢
      split at h
      · exact h
      · cases h

end Members

/-! ## Entries of the second list -/

theorem verdict_servicesOf :
    Verdict (servicesOf fields)
      (Fields.Optional fields "services" (FalsyOr (ObjectWith ServicesWellFormed)))
      (Fields.Required fields "services" (ObjectWith ServicesOverflowing)) :=
  verdict_readMembers (by simp) (verdict_readServices []) (by simp [ServicesWellFormed])

theorem servicesOf_writable {services : Services} (hf : (Json.obj fields).Admissible)
    (h : servicesOf fields = .ok services) : services.Writable := by
  have hempty : Services.Writable [] := by
    intro e he
    cases he
  have hmembers := admissible_obj_iff.mp (Fields.admissible_objectAt hf "services")
  exact readServices_writable hempty hmembers (read_objectAt h)

theorem portFailure_of_ne {fault : PortFault} (refusal : PortFault → ConfigurationFault)
    (hne : fault ≠ .integer .infinite) :
    (.error (portFailure fault refusal) : Except Failure α) = refuse (refusal fault) := by
  unfold portFailure refuse
  split
  · exact absurd rfl hne
  · rfl

/-- A reader that goes on where ports are accepted, and fails as they do. -/
theorem Verdict.of_port {β : Type} {x : Except PortFault α} {y : Except Failure β}
    {refusal : PortFault → ConfigurationFault} {Accepts Stops Accepts' Stops' : Prop}
    (hx : Verdict x Accepts Stops) (haccept : ∀ a, x = .ok a → Verdict y Accepts' Stops')
    (hfail : ∀ fault, x = .error fault → y = .error (portFailure fault refusal))
    (hw : ∀ fault, (refusal fault).message.Writable) :
    Verdict y (Accepts ∧ Accepts') (Stops ∨ Accepts ∧ Stops') := by
  refine hx.across haccept (hfail _) ?_
  intro fault hfault hne
  rw [hfail fault hfault, portFailure_of_ne refusal hne]
  exact verdict_refuse (hw fault)

theorem verdict_extendedAddress {host : Json} (h : host.Writable) :
    Verdict (extendedAddress host)
      (∃ t address, host.display = .ok t ∧ Address.normalize t = .ok address) False := by
  obtain ⟨t, ht⟩ := display_of_writable h
  unfold extendedAddress
  rw [ht]
  dsimp only
  cases hn : Address.normalize t with
  | ok address => exact (verdict_ok _).congr (by simp [hn]) Iff.rfl
  | error fault =>
    exact Verdict.congr (verdict_refuse (writable_address fault)) (by simp [hn]) Iff.rfl

theorem hostOf?_eq_some_iff {entry host : Json} :
    hostOf? entry = some (fields, host) ↔
      entry = .obj fields ∧ Json.lookup (Text.ofString "hostname") fields = some host := by
  unfold hostOf?
  cases entry with
  | obj members =>
    simp only [Option.map_eq_some_iff, Prod.mk.injEq, Json.obj.injEq]
    constructor
    · rintro ⟨_, hlookup, rfl, rfl⟩
      exact ⟨rfl, hlookup⟩
    · rintro ⟨rfl, hlookup⟩
      exact ⟨host, hlookup, rfl, rfl⟩
  | _ => simp

theorem extendedWellFormed_iff {entry host : Json} (h : hostOf? entry = some (fields, host)) :
    ExtendedWellFormed entry ↔
      Fields.Optional fields "services" (FalsyOr (ObjectWith ServicesWellFormed)) ∧
        ∃ t address, host.display = .ok t ∧ Address.normalize t = .ok address := by
  obtain ⟨hentry, hlookup⟩ := hostOf?_eq_some_iff.mp h
  constructor
  · intro hform
    exact hform fields host hentry hlookup
  · intro hform fields' host' hentry' hlookup'
    rw [hentry] at hentry'
    cases hentry'
    rw [hlookup] at hlookup'
    cases hlookup'
    exact hform

theorem extendedOverflowing_iff {entry host : Json} (h : hostOf? entry = some (fields, host)) :
    ExtendedOverflowing entry ↔ Fields.Required fields "services" (ObjectWith ServicesOverflowing) := by
  obtain ⟨hentry, hlookup⟩ := hostOf?_eq_some_iff.mp h
  constructor
  · rintro ⟨fields', host', hentry', _, hservices⟩
    rw [hentry] at hentry'
    cases hentry'
    exact hservices
  · intro hservices
    exact ⟨fields, host, hentry, hlookup, hservices⟩

theorem admissible_of_hostOf? {entry host : Json} (hentry : entry.Admissible)
    (h : hostOf? entry = some (fields, host)) : (Json.obj fields).Admissible ∧ host.Admissible := by
  obtain ⟨rfl, hlookup⟩ := hostOf?_eq_some_iff.mp h
  exact ⟨hentry, admissible_of_lookup hentry hlookup⟩

/-- An entry without host is skipped, whatever else it holds. -/
theorem readExtended_hostless {entry : Json} (h : entry.Admissible)
    (hhost : hostOf? entry = none) : (readExtended entry).outcome = .ok none := by
  unfold readExtended
  rw [hhost]
  dsimp only
  rw [Run.outcome_bind_of_ok (Run.outcome_emit (by simpa using h.writable))]
  rfl

theorem verdict_skipped {entry : Json} (h : entry.Admissible) (hhost : hostOf? entry = none) :
    Verdict (readExtended entry).outcome (ExtendedWellFormed entry) (ExtendedOverflowing entry) := by
  have hno : ∀ fields host, entry = .obj fields →
      Json.lookup (Text.ofString "hostname") fields ≠ some host := by
    intro fields host hentry hlookup
    rw [hostOf?_eq_some_iff.mpr ⟨hentry, hlookup⟩] at hhost
    cases hhost
  rw [readExtended_hostless h hhost]
  refine (verdict_ok _).congr ?_ ?_
  · rw [true_iff]
    intro fields host hentry hlookup
    exact absurd hlookup (hno fields host hentry)
  · rw [false_iff]
    rintro ⟨fields, host, hentry, hlookup, _⟩
    exact hno fields host hentry hlookup

theorem verdict_readExtended {entry : Json} (h : entry.Admissible) :
    Verdict (readExtended entry).outcome (ExtendedWellFormed entry) (ExtendedOverflowing entry) := by
  cases hhost : hostOf? entry with
  | none => exact verdict_skipped h hhost
  | some pair =>
    obtain ⟨fields, host⟩ := pair
    obtain ⟨hfields, hhostAdm⟩ := admissible_of_hostOf? h hhost
    rw [extendedWellFormed_iff hhost, extendedOverflowing_iff hhost]
    unfold readExtended
    rw [hhost]
    dsimp only
    apply Verdict.congr
    -- The services are read before the host, so their faults come first.
    · apply verdict_servicesOf.of_port
      · intro services hservices
        rw [hservices]
        exact (verdict_extendedAddress hhostAdm.writable).run_bind
          fun address _ => verdict_ok (some (address, services))
      · intro fault hfault
        rw [hfault]
        rfl
      · exact writable_extendedPort hhostAdm.writable
    · rw [and_true]
    · simp only [and_false, or_false]

/-- All ports of the entries can be written. -/
def EntriesWritable (extended : List (Option Extended)) : Prop :=
  ∀ e, some e ∈ extended → e.2.Writable

theorem readExtended_writable {entry : Json} {e : Extended} (h : entry.Admissible)
    (hread : (readExtended entry).outcome = .ok (some e)) : e.2.Writable := by
  unfold readExtended at hread
  cases hhost : hostOf? entry with
  | none =>
    rw [hhost] at hread
    obtain ⟨_, _, hnone⟩ := Run.outcome_bind_eq_ok_iff.mp hread
    cases hnone
  | some pair =>
    obtain ⟨fields, host⟩ := pair
    obtain ⟨hfields, _⟩ := admissible_of_hostOf? h hhost
    rw [hhost] at hread
    dsimp only at hread
    cases hservices : servicesOf fields with
    | error fault =>
      rw [hservices] at hread
      cases hread
    | ok services =>
      rw [hservices] at hread
      obtain ⟨address, _, hsome⟩ := Run.outcome_bind_eq_ok_iff.mp hread
      cases hsome
      exact servicesOf_writable hfields hservices

theorem readExtendedList_writable {entries : List Json} {extended : List (Option Extended)}
    (h : ∀ entry ∈ entries, entry.Admissible)
    (hread : (readExtendedList entries).outcome = .ok extended) : EntriesWritable extended := by
  induction entries generalizing extended with
  | nil =>
    cases hread
    intro e he
    cases he
  | cons entry entries ih =>
    obtain ⟨hentry, hentries⟩ := List.forall_mem_cons.mp h
    rw [readExtendedList] at hread
    obtain ⟨first, hfirst, hread⟩ := Run.outcome_bind_eq_ok_iff.mp hread
    obtain ⟨others, hothers, hread⟩ := Run.outcome_bind_eq_ok_iff.mp hread
    cases hread
    intro e he
    rcases List.mem_cons.mp he with rfl | he
    · exact readExtended_writable hentry hfirst
    · exact ih hentries hothers e he

theorem verdict_readExtendedList {entries : List Json} (h : ∀ entry ∈ entries, entry.Admissible) :
    Verdict (readExtendedList entries).outcome (∀ entry ∈ entries, ExtendedWellFormed entry)
      (FirstFault ExtendedWellFormed ExtendedOverflowing entries) := by
  induction entries with
  | nil => exact verdict_nil _
  | cons entry entries ih =>
    obtain ⟨hentry, hentries⟩ := List.forall_mem_cons.mp h
    rw [readExtendedList]
    exact (verdict_readExtended hentry).run_cons (ih hentries)

end BucketMap
