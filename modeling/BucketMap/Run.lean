import BucketMap.Failure

/-!
# Runs

A run writes records to channels and ends with a value or a failure. The records written before a
failure stay.

* `Run.emit` writes a record; it fails instead if an integer in the text is too long to be written.
* `log_bind` and `outcome_bind` say what a sequence of two runs writes and how it ends.
-/

namespace BucketMap

/-- How serious a record is. -/
inductive Severity
  | debug | info | warning | error
deriving DecidableEq

/-- The name of a severity. -/
def Severity.name : Severity → String
  | debug => "DEBUG"
  | info => "INFO"
  | warning => "WARNING"
  | error => "ERROR"

/-- Where a record is written to: a part of the library, or a channel of the caller's. -/
inductive Channel
  | resolver | builder | parser | bucket | router | inspector
  | other (name : Text)
deriving DecidableEq

/-- The name of a channel. -/
def Channel.name : Channel → Text
  | resolver => Text.ofString "bucket_topology.cluster.resolver"
  | builder => Text.ofString "bucket_topology.cluster.builder"
  | parser => Text.ofString "bucket_topology.document.parser"
  | bucket => Text.ofString "bucket_topology.cluster.bucket"
  | router => Text.ofString "bucket_topology.cluster.router"
  | inspector => Text.ofString "bucket_topology.cli"
  | other name => name

/-- A line of a log. -/
structure Record where
  channel : Channel
  severity : Severity
  text : Text
deriving DecidableEq

/-- What was written, and the value or failure at the end. -/
structure Run (α : Type) where
  log : List Record
  outcome : Except Failure α

namespace Run

variable {α β : Type}

/-- A run that writes nothing. -/
def ofExcept (outcome : Except Failure α) : Run α := ⟨[], outcome⟩

/-- A run that writes nothing and ends with a value. -/
def ok (a : α) : Run α := ⟨[], .ok a⟩

/-- A run that writes nothing and fails. -/
def fail (f : Failure) : Run α := ⟨[], .error f⟩

/-- The first run and, unless it fails, the second one. -/
def andThen (x : Run α) (f : α → Run β) : Run β :=
  match x.outcome with
  | .ok a => ⟨x.log ++ (f a).log, (f a).outcome⟩
  | .error e => ⟨x.log, .error e⟩

instance : Monad Run where
  pure := ok
  bind := andThen

/-- Write a record. -/
def emit (channel : Channel) (severity : Severity) (message : Message) : Run Unit :=
  match message.render with
  | .ok text => ⟨[⟨channel, severity, text⟩], .ok ()⟩
  | .error _ => fail .numeralTooLong

/-- Refusal of a document or a map. -/
def refuse (fault : ConfigurationFault) : Run α := ofExcept (BucketMap.refuse fault)

theorem bind_eq (x : Run α) (f : α → Run β) : x >>= f = x.andThen f := rfl

theorem ok_andThen (a : α) (f : α → Run β) : (ok a).andThen f = f a := by
  simp [ok, andThen]

theorem fail_andThen (e : Failure) (f : α → Run β) : (fail e).andThen f = fail e := rfl

theorem ofExcept_ok (a : α) : ofExcept (.ok a) = ok a := rfl

theorem ofExcept_error (e : Failure) : (ofExcept (.error e) : Run α) = fail e := rfl

theorem outcome_bind (x : Run α) (f : α → Run β) :
    (x >>= f).outcome = x.outcome >>= fun a => (f a).outcome := by
  rw [bind_eq, andThen]
  cases x.outcome <;> rfl

theorem log_bind_ok {x : Run α} {a : α} (h : x.outcome = .ok a) (f : α → Run β) :
    (x >>= f).log = x.log ++ (f a).log := by
  rw [bind_eq, andThen, h]

theorem log_bind_error {x : Run α} {e : Failure} (h : x.outcome = .error e) (f : α → Run β) :
    (x >>= f).log = x.log := by
  rw [bind_eq, andThen, h]

theorem andThen_ok (x : Run α) : x.andThen ok = x := by
  obtain ⟨log, outcome⟩ := x
  cases outcome <;> simp [andThen, ok]

theorem andThen_assoc {γ : Type} (x : Run α) (f : α → Run β) (g : β → Run γ) :
    (x.andThen f).andThen g = x.andThen fun a => (f a).andThen g := by
  obtain ⟨log, outcome⟩ := x
  cases outcome with
  | error e => rfl
  | ok a =>
    simp only [andThen]
    cases (f a).outcome <;> simp [List.append_assoc]

instance : LawfulMonad Run :=
  LawfulMonad.mk' Run (fun x => andThen_ok x) (fun a f => ok_andThen a f)
    (fun x f g => andThen_assoc x f g)

end Run

end BucketMap
