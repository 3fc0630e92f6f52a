import BucketMap.Proofs.Writable

/-!
# How runs end

The outcome of a run forgets its records. Outcomes are taken apart step by step
(`Run.outcome_bind_eq_ok_iff`), and `OnlyRefuses` says that an outcome is a value or a refusal as a
configuration and no failure of another family; a sequence inherits it from its steps
(`onlyRefuses_bind`, `Run.onlyRefuses_bind`).

A run keeps to its channel if all that the channel changes is where the records go (`KeepsTo`). It then
ends alike on all channels (`KeepsTo.outcome_eq`); a sequence keeps to its channel if its steps do.
-/

namespace BucketMap

variable {α β : Type}

/-! ## Sequences -/

theorem bind_eq_ok_iff {ε : Type} {x : Except ε α} {f : α → Except ε β} {b : β} :
    x >>= f = .ok b ↔ ∃ a, x = .ok a ∧ f a = .ok b := by
  constructor
  · intro h
    cases x with
    | error e => cases h
    | ok a => exact ⟨a, rfl, h⟩
  · rintro ⟨a, rfl, h⟩
    exact h

theorem bind_eq_error_iff {ε : Type} {x : Except ε α} {f : α → Except ε β} {e : ε} :
    x >>= f = .error e ↔ x = .error e ∨ ∃ a, x = .ok a ∧ f a = .error e := by
  cases x with
  | error e' =>
    have hbind : (Except.error e' : Except ε α) >>= f = .error e' := rfl
    rw [hbind]
    simp
  | ok a =>
    have hbind : (Except.ok a : Except ε α) >>= f = f a := rfl
    rw [hbind]
    simp

namespace Run

@[simp]
theorem outcome_ok (a : α) : (ok a).outcome = .ok a := rfl

@[simp]
theorem outcome_ofExcept (x : Except Failure α) : (ofExcept x).outcome = x := rfl

theorem outcome_bind_eq_ok_iff {x : Run α} {f : α → Run β} {b : β} :
    (x >>= f).outcome = .ok b ↔ ∃ a, x.outcome = .ok a ∧ (f a).outcome = .ok b := by
  rw [outcome_bind]
  exact bind_eq_ok_iff

/-- A run that ends with a value goes on as what follows does. -/
theorem outcome_bind_of_ok {x : Run α} {a : α} (h : x.outcome = .ok a) (f : α → Run β) :
    (x >>= f).outcome = (f a).outcome := by
  rw [outcome_bind, h]
  rfl

theorem outcome_emit {channel : Channel} {severity : Severity} {message : Message}
    (h : message.Writable) : (emit channel severity message).outcome = .ok () := by
  obtain ⟨text, ht⟩ := emit_of_writable channel severity h
  rw [ht]

end Run

/-! ## Refusals -/

/-- Every failure is a refusal of a document or a map. -/
def OnlyRefuses (x : Except Failure α) : Prop := ∀ f, x = .error f → f.family = .configuration

theorem onlyRefuses_ok (a : α) : OnlyRefuses (.ok a) := by
  intro f hf
  cases hf

theorem refuse_of_writable {fault : ConfigurationFault} (h : fault.message.Writable) :
    (refuse fault : Except Failure α) = .error (.configuration fault) := by
  have hsay : (Failure.configuration fault).sayable = .configuration fault :=
    Failure.sayable_of_writable h
  rw [refuse, hsay]

theorem Run.refuse_of_writable {fault : ConfigurationFault} (h : fault.message.Writable) :
    (Run.refuse fault : Run α) = ⟨[], .error (.configuration fault)⟩ := by
  rw [Run.refuse, BucketMap.refuse_of_writable h]
  rfl

theorem onlyRefuses_refuse {fault : ConfigurationFault} (h : fault.message.Writable) :
    OnlyRefuses (refuse fault : Except Failure α) := by
  intro f hf
  rw [refuse_of_writable h] at hf
  cases hf
  rfl

theorem onlyRefuses_bind {x : Except Failure α} {f : α → Except Failure β} (hx : OnlyRefuses x)
    (hf : ∀ a, x = .ok a → OnlyRefuses (f a)) : OnlyRefuses (x >>= f) := by
  intro e he
  cases h : x with
  | error e' =>
    rw [h] at he
    cases he
    exact hx _ h
  | ok a =>
    rw [h] at he
    exact hf a h e he

theorem Run.onlyRefuses_bind {x : Run α} {f : α → Run β} (hx : OnlyRefuses x.outcome)
    (hf : ∀ a, x.outcome = .ok a → OnlyRefuses (f a).outcome) :
    OnlyRefuses (x >>= f).outcome := by
  rw [outcome_bind]
  exact BucketMap.onlyRefuses_bind hx hf

/-- An outcome without a value is a refusal. -/
theorem OnlyRefuses.exists_error {x : Except Failure α} (h : OnlyRefuses x)
    (hx : ¬ ∃ a, x = .ok a) : ∃ f, x = .error f ∧ f.family = .configuration := by
  cases hv : x with
  | error f => exact ⟨f, rfl, h f hv⟩
  | ok a => exact absurd ⟨a, hv⟩ hx

/-! ## Channels -/

namespace Run

/-- The run with all its records on one channel. -/
def onChannel (channel : Channel) (x : Run α) : Run α :=
  ⟨x.log.map fun r => { r with channel := channel }, x.outcome⟩

theorem onChannel_bind (channel : Channel) (x : Run α) (f : α → Run β) :
    (x >>= f).onChannel channel = x.onChannel channel >>= fun a => (f a).onChannel channel := by
  obtain ⟨log, outcome⟩ := x
  cases outcome with
  | error e => rfl
  | ok a => exact congrArg (Run.mk · _) List.map_append

end Run

/-- The channel of the run decides where its records go, and nothing else. -/
def KeepsTo (x : Channel → Run α) : Prop :=
  ∀ log log', x log' = (x log).onChannel log'

namespace KeepsTo

variable {x : Channel → Run α}

theorem ofExcept (outcome : Except Failure α) : KeepsTo fun _ => Run.ofExcept outcome :=
  fun _ _ => rfl

theorem emit (severity : Severity) (message : Message) :
    KeepsTo fun log => Run.emit log severity message := by
  intro log log'
  unfold Run.emit
  cases message.render with
  | error e => rfl
  | ok text => rfl

theorem bind {f : Channel → α → Run β} (hx : KeepsTo x) (hf : ∀ a, KeepsTo fun log => f log a) :
    KeepsTo fun log => x log >>= f log := by
  intro log log'
  dsimp only
  rw [Run.onChannel_bind, ← hx log log']
  exact congrArg (x log' >>= ·) (funext fun a => hf a log log')

theorem outcome_eq (hx : KeepsTo x) (log log' : Channel) : (x log').outcome = (x log).outcome := by
  rw [hx log log']
  rfl

/-- The records are what they become on their channel. -/
theorem channel_eq (hx : KeepsTo x) {log : Channel} {r : Record} (hr : r ∈ (x log).log) :
    r.channel = log := by
  rw [hx log log] at hr
  obtain ⟨_, -, rfl⟩ := List.mem_map.mp hr
  rfl

end KeepsTo

end BucketMap
