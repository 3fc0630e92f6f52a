import BucketMap.Proofs.NodePorts

/-!
# What the node lists say

The members of the two node lists of a document, as they are read. A member of the second list says
nothing without a host; with one, it lists a port for each service whose key its services have
(`SaidByEntry`). A member of the node list says at which address the node is and with which port, and
it may list a direct port and the address of a view engine (`NodeFields.SaidBy`).

The ports are told by the keys of the services and not by the order in which they are read: of fields
with one key, the last one counts (`readServices_port?`).
-/

namespace BucketMap

open Json

/-! ## Fields with one key -/

namespace Fields

/-- The last of the fields with the key has this value. -/
def LastAt (fields : Fields) (key : Text) (v : Json) : Prop :=
  ∃ before after, fields = before ++ (key, v) :: after ∧ ∀ field ∈ after, field.1 ≠ key

variable {fields : Fields} {key : Text} {v : Json}

theorem not_lastAt_nil : ¬ LastAt [] key v := by
  rintro ⟨before, after, heq, -⟩
  exact absurd heq.symm (List.append_ne_nil_of_right_ne_nil before (List.cons_ne_nil _ after))

theorem lastAt_cons_iff {field : Text × Json} :
    LastAt (field :: fields) key v ↔
      LastAt fields key v ∨ field = (key, v) ∧ ∀ f ∈ fields, f.1 ≠ key := by
  constructor
  · rintro ⟨before, after, heq, hafter⟩
    cases before with
    | nil =>
      cases heq
      exact .inr ⟨rfl, hafter⟩
    | cons first before =>
      cases heq
      exact .inl ⟨before, after, rfl, hafter⟩
  · rintro (⟨before, after, rfl, hafter⟩ | ⟨rfl, hafter⟩)
    · exact ⟨field :: before, after, rfl, hafter⟩
    · exact ⟨[], fields, rfl, hafter⟩

end Fields

/-! ## Ports of entries -/

theorem Service.ofKey?_key (service : Service) : ofKey? service.key = some service := by
  cases service <;> decide

theorem Service.key_of_ofKey? {key : Text} {service : Service} (h : ofKey? key = some service) :
    service.key = key := by
  simpa using List.find?_some h

/-- The last of the fields with the key of the service stands for the port. -/
def PortAt (members : Fields) (service : Service) (port : Int) : Prop :=
  ∃ v, members.LastAt service.key v ∧ v.toInt = .ok port

theorem portAt_cons_of_ne {field : Text × Json} {members : Fields} {service : Service} {port : Int}
    (hne : field.1 ≠ service.key) :
    PortAt (field :: members) service port ↔ PortAt members service port := by
  have hfield : ∀ v, field ≠ (service.key, v) := by
    rintro v rfl
    exact hne rfl
  simp [PortAt, Fields.lastAt_cons_iff, hfield]

theorem portAt_cons_self {value : Json} {members : Fields} {service : Service} {p port : Int}
    (hp : value.toInt = .ok p) :
    PortAt ((service.key, value) :: members) service port ↔
      PortAt members service port ∨ (∀ f ∈ members, f.1 ≠ service.key) ∧ p = port := by
  unfold PortAt
  constructor
  · rintro ⟨v, hlast, hv⟩
    rcases Fields.lastAt_cons_iff.mp hlast with hlast | ⟨heq, hno⟩
    · exact .inl ⟨v, hlast, hv⟩
    · cases heq
      exact .inr ⟨hno, Except.ok.inj (hp.symm.trans hv)⟩
  · rintro (⟨v, hlast, hv⟩ | ⟨hno, rfl⟩)
    · exact ⟨v, Fields.lastAt_cons_iff.mpr (.inl hlast), hv⟩
    · exact ⟨value, Fields.lastAt_cons_iff.mpr (.inr ⟨rfl, hno⟩), hp⟩

/-- A port is the one at the key of its service, or was set before where the key is missing. -/
theorem readServices_port? {services out : Services} {members : Fields}
    (h : readServices services members = .ok out) (service : Service) (port : Int) :
    out.port? service = some port ↔
      PortAt members service port ∨
        (∀ f ∈ members, f.1 ≠ service.key) ∧ services.port? service = some port := by
  induction members generalizing services with
  | nil =>
    cases h
    simp [PortAt, Fields.not_lastAt_nil]
  | cons field members ih =>
    obtain ⟨key, value⟩ := field
    rw [List.forall_mem_cons]
    rw [readServices] at h
    split at h
    · rename_i hunknown
      have hne : key ≠ service.key := by
        rintro rfl
        rw [Service.ofKey?_key] at hunknown
        cases hunknown
      rw [ih h, portAt_cons_of_ne hne, and_iff_right hne]
    · rename_i s hs
      split at h
      · rename_i p hp
        rw [ih h, Services.port?_set]
        obtain rfl : s.key = key := Service.key_of_ofKey? hs
        by_cases hservice : s = service
        · -- The field replaces what was set before.
          subst hservice
          rw [portAt_cons_self hp, if_pos rfl, Option.some.injEq]
          simp
        · have hne : s.key ≠ service.key := by
            intro heq
            rw [heq, Service.ofKey?_key] at hs
            exact hservice (Option.some.inj hs).symm
          rw [if_neg hservice, portAt_cons_of_ne hne, and_iff_right hne]
      · cases h

theorem servicesOf_port? {fields : Fields} {services : Services}
    (h : servicesOf fields = .ok services) (service : Service) (port : Int) :
    services.port? service = some port ↔ PortAt (fields.objectAt "services") service port := by
  rw [readServices_port? (read_objectAt h)]
  simp [Services.port?]

/-- What a member of the second list says: it lists the ports of services at the address of its host,
if it has one. -/
inductive SaidByEntry : Json → Option Extended → Prop
  | hostless {raw : Json} (h : ∀ fields host, raw = .obj fields →
      Json.lookup (Text.ofString "hostname") fields ≠ some host) : SaidByEntry raw none
  | listed {fields : Fields} {host : Json} {t : Text} {e : Extended}
      (hhost : Json.lookup (Text.ofString "hostname") fields = some host)
      (ht : host.display = .ok t) (haddress : Address.normalize t = .ok e.1)
      (hports : ∀ service port,
        e.2.port? service = some port ↔ PortAt (fields.objectAt "services") service port) :
      SaidByEntry (.obj fields) (some e)

theorem extendedAddress_eq_ok {host : Json} {address : Text}
    (h : extendedAddress host = .ok address) :
    ∃ t, host.display = .ok t ∧ Address.normalize t = .ok address := by
  unfold extendedAddress at h
  split at h
  · cases h
  · rename_i t ht
    split at h
    · rename_i a ha
      cases h
      exact ⟨t, ht, ha⟩
    · cases h

theorem hostOf?_eq_none_of_readExtended {raw : Json} (h : (readExtended raw).outcome = .ok none) :
    hostOf? raw = none := by
  unfold readExtended at h
  split at h
  · assumption
  · split at h
    · cases h
    · obtain ⟨_, -, hsome⟩ := Run.outcome_bind_eq_ok_iff.mp h
      cases hsome

theorem saidByEntry_of_readExtended {raw : Json} {slot : Option Extended}
    (h : (readExtended raw).outcome = .ok slot) : SaidByEntry raw slot := by
  cases slot with
  | none =>
    apply SaidByEntry.hostless
    intro fields host hraw hhost
    have hnone := hostOf?_eq_none_of_readExtended h
    rw [hostOf?_eq_some_iff.mpr ⟨hraw, hhost⟩] at hnone
    cases hnone
  | some e =>
    obtain ⟨fields, host, hhostOf, hservices, haddress⟩ := readExtended_eq_some h
    obtain ⟨rfl, hhost⟩ := hostOf?_eq_some_iff.mp hhostOf
    obtain ⟨t, ht, hnormalize⟩ := extendedAddress_eq_ok haddress
    exact .listed hhost ht hnormalize (servicesOf_port? hservices)

/-! ## Ports of nodes -/

/-- The direct port that a node lists, unless it is missing or null. -/
inductive DirectPort (fields : Fields) : Option Int → Prop
  | absent (h : (fields.objectAt "ports").given? "direct" = none) : DirectPort fields none
  | listed {v : Json} {port : Int} (hgiven : (fields.objectAt "ports").given? "direct" = some v)
      (hport : v.toInt = .ok port) : DirectPort fields (some port)

/-- The port of the address of the view engine, if that is a URL with a valid one. -/
inductive ViewPort (fields : Fields) : Option Int → Prop
  | absent (h : ∀ t port, fields.given? "couchApiBase" = some (.str t) →
      Url.port t ≠ .ok (some port)) : ViewPort fields none
  | listed {t : Text} {port : Int} (hgiven : fields.given? "couchApiBase" = some (.str t))
      (hport : Url.port t = .ok (some port)) : ViewPort fields (some port)

theorem directPort_spec {fields : Fields} {direct : Option Int}
    (h : directPort fields = .ok direct) : DirectPort fields direct := by
  have hdirect := read_objectAt h
  unfold directOf at hdirect
  split at hdirect
  · rename_i hnone
    cases hdirect
    exact .absent hnone
  · rename_i v hv
    split at hdirect
    · rename_i port hport
      cases hdirect
      exact .listed hv hport
    · cases hdirect

theorem ViewPort.of_url_without_port {fields : Fields} {t : Text}
    (hgiven : fields.given? "couchApiBase" = some (.str t))
    (hno : ∀ port, Url.port t ≠ .ok (some port)) : ViewPort fields none := by
  apply ViewPort.absent
  intro t' port hgiven'
  rw [hgiven] at hgiven'
  cases hgiven'
  exact hno port

theorem ViewPort.of_url {fields : Fields} {t : Text} {view : Option Int}
    (hgiven : fields.given? "couchApiBase" = some (.str t)) (hport : Url.port t = .ok view) :
    ViewPort fields view := by
  cases view with
  | none => exact .of_url_without_port hgiven (by simp [hport])
  | some port => exact .listed hgiven hport

theorem viewPort_spec {fields : Fields} {view : Option Int}
    (h : (viewPort fields).outcome = .ok (.ok view)) : ViewPort fields view := by
  unfold viewPort at h
  dsimp only at h
  cases hgiven : fields.given? "couchApiBase" with
  | none =>
    rw [hgiven] at h
    cases h
    exact .absent (by simp [hgiven])
  | some v =>
    rw [hgiven, Option.getD_some] at h
    cases v with
    | str t =>
      by_cases hempty : (Json.str t).isFalsy = true
      · rw [if_pos hempty] at h
        cases h
        have hnil : t = [] := by simpa [isFalsy] using hempty
        subst hnil
        exact .of_url hgiven rfl
      · rw [if_neg hempty] at h
        cases hport : Url.port t with
        | ok port =>
          simp only [hport] at h
          cases h
          exact .of_url hgiven hport
        | error fault =>
          simp only [hport] at h
          obtain ⟨_, -, hnone⟩ := Run.outcome_bind_eq_ok_iff.mp h
          cases hnone
          exact .of_url_without_port hgiven (by simp [hport])
    | _ =>
      -- Only a value that stands for nothing is accepted, and it has no port.
      split at h
      · cases h
        exact .absent (by simp [hgiven])
      · cases h

/-- What a member of the node list says. -/
structure NodeFields.SaidBy (fields : Fields) (e : NodeFields) : Prop where
  host : ∃ t, fields.given? "hostname" = some (.str t) ∧
    (Descriptor.read none (.str t)).outcome = .ok e.host
  direct : DirectPort fields e.direct
  view : ViewPort fields e.view

theorem NodeFields.ReadFrom.saidBy {fields : Fields} {e : NodeFields} (h : e.ReadFrom fields) :
    e.SaidBy fields := by
  obtain ⟨t, ht, hd⟩ := h.host
  exact ⟨⟨t, Fields.text_eq_ok_iff.mp ht, hd⟩, directPort_spec h.direct, viewPort_spec h.view⟩

end BucketMap
