import BucketMap.Proofs.Outcome

/-!
# Verdicts of readers

A reader of a document accepts its input, refuses it, or stops at an infinite number where it needs
an integer, which is a failure of its own. `Verdict` says which inputs are accepted and at which ones
the reader stops; every other one is refused. A sequence of readers accepts what all of them accept,
and it stops where the first of them that does not accept stops (`Verdict.bind`).

Readers of lists go from front to back: they stop exactly if an element at which they stop comes
before every element that is refused (`FirstFault`, `Verdict.cons`).
-/

namespace BucketMap

variable {ε α β : Type}

/-- The failures of a reader: the one at an infinite number, and those that refuse the input. -/
class Faults (ε : Type) where
  infinite : ε
  Refusal : ε → Prop

instance : Faults IntegerFault := ⟨.infinite, fun _ => True⟩

instance : Faults PortFault := ⟨.integer .infinite, fun _ => True⟩

instance : Faults Failure := ⟨.integer .infinite, fun f => f.family = .configuration⟩

/-- How a reader ends. -/
structure Verdict [Faults ε] (x : Except ε α) (Accepts Stops : Prop) : Prop where
  accepts_iff : (∃ a, x = .ok a) ↔ Accepts
  stops_iff : x = .error Faults.infinite ↔ Stops
  refuses : ∀ e, x = .error e → e = Faults.infinite ∨ Faults.Refusal e

section Steps

variable [Faults ε] {Accepts Stops Accepts' Stops' : Prop}

theorem verdict_ok (a : α) : Verdict (.ok a : Except ε α) True False := by
  refine ⟨by simp, by simp, ?_⟩
  intro e he
  cases he

theorem verdict_infinite : Verdict (.error Faults.infinite : Except ε α) False True := by
  refine ⟨by simp, by simp, ?_⟩
  intro e he
  cases he
  exact .inl rfl

theorem verdict_refusal {e : ε} (hne : e ≠ Faults.infinite) (he : Faults.Refusal e) :
    Verdict (.error e : Except ε α) False False := by
  refine ⟨by simp, by simpa using hne, ?_⟩
  intro e' he'
  cases he'
  exact .inr he

theorem Verdict.congr {x : Except ε α} (h : Verdict x Accepts Stops) (ha : Accepts ↔ Accepts')
    (hs : Stops ↔ Stops') : Verdict x Accepts' Stops' :=
  ⟨h.accepts_iff.trans ha, h.stops_iff.trans hs, h.refuses⟩

/-- A sequence in which the second step depends on what the first one gives. -/
theorem Verdict.bind_dep {x : Except ε α} {f : α → Except ε β} {Accepts' Stops' : α → Prop}
    (hx : Verdict x Accepts Stops)
    (hf : ∀ a, x = .ok a → Verdict (f a) (Accepts' a) (Stops' a)) :
    Verdict (x >>= f) (∃ a, x = .ok a ∧ Accepts' a) (Stops ∨ ∃ a, x = .ok a ∧ Stops' a) := by
  cases x with
  | error e =>
    have he : (Except.error e >>= f) = Except.error e := rfl
    rw [he]
    refine ⟨by simp, ?_, fun e' he' => ?_⟩
    · rw [← hx.stops_iff]
      simp
    · cases he'
      exact hx.refuses e rfl
  | ok a =>
    have ha : (Except.ok a >>= f) = f a := rfl
    have hstops : ¬ Stops := by
      rw [← hx.stops_iff]
      simp
    rw [ha]
    refine (hf a rfl).congr ?_ ?_
    · simp
    · simp [hstops]

theorem Verdict.bind {x : Except ε α} {f : α → Except ε β} (hx : Verdict x Accepts Stops)
    (hf : ∀ a, x = .ok a → Verdict (f a) Accepts' Stops') :
    Verdict (x >>= f) (Accepts ∧ Accepts') (Stops ∨ Accepts ∧ Stops') := by
  refine (hx.bind_dep hf).congr ?_ ?_
  · rw [← hx.accepts_iff]
    simp
  · rw [← hx.accepts_iff]
    simp

/-- A reader that goes on where another one accepts, and takes over its failures as its own. -/
theorem Verdict.across {ε' : Type} [Faults ε'] {x : Except ε α} {y : Except ε' β}
    (hx : Verdict x Accepts Stops) (haccept : ∀ a, x = .ok a → Verdict y Accepts' Stops')
    (hstop : x = .error Faults.infinite → y = .error Faults.infinite)
    (hrefuse : ∀ e, x = .error e → e ≠ Faults.infinite → Verdict y False False) :
    Verdict y (Accepts ∧ Accepts') (Stops ∨ Accepts ∧ Stops') := by
  rw [← hx.accepts_iff, ← hx.stops_iff]
  cases x with
  | ok a => exact (haccept a rfl).congr (by simp) (by simp)
  | error e =>
    by_cases he : e = Faults.infinite
    · subst he
      rw [hstop rfl]
      exact verdict_infinite.congr (by simp) (by simp)
    · exact (hrefuse e rfl he).congr (by simp) (by simp [he])

/-- A reader that ends as another one does, with failures of its own. -/
theorem Verdict.carry {ε' : Type} [Faults ε'] {x : Except ε α} {y : Except ε' β}
    (hx : Verdict x Accepts Stops) (haccept : ∀ a, x = .ok a → ∃ b, y = .ok b)
    (hstop : x = .error Faults.infinite → y = .error Faults.infinite)
    (hrefuse : ∀ e, x = .error e → e ≠ Faults.infinite → Verdict y False False) :
    Verdict y Accepts Stops := by
  have hgo : ∀ a, x = .ok a → Verdict y True False := by
    intro a ha
    obtain ⟨b, hb⟩ := haccept a ha
    rw [hb]
    exact verdict_ok b
  exact (hx.across hgo hstop hrefuse).congr (by simp) (by simp)

/-- A last step that always ends with a value leaves the verdict as it is. -/
theorem Verdict.then_pure {x : Except ε α} (hx : Verdict x Accepts Stops) (f : α → β) :
    Verdict (x >>= fun a => pure (f a)) Accepts Stops :=
  (hx.bind fun a _ => verdict_ok (f a)).congr (by simp) (by simp)

end Steps

/-! ## Documents -/

theorem verdict_refuse {fault : ConfigurationFault} (h : fault.message.Writable) :
    Verdict (refuse fault : Except Failure α) False False := by
  rw [refuse_of_writable h]
  refine verdict_refusal ?_ rfl
  intro h
  cases h

theorem OnlyRefuses.verdict {x : Except Failure α} (h : OnlyRefuses x) :
    Verdict x (∃ a, x = .ok a) False := by
  refine ⟨Iff.rfl, ?_, fun f hf => .inr (h f hf)⟩
  rw [iff_false]
  intro hx
  cases h _ hx

theorem Verdict.onlyRefuses_iff {x : Except Failure α} {Accepts Stops : Prop}
    (h : Verdict x Accepts Stops) : OnlyRefuses x ↔ ¬ Stops := by
  rw [← h.stops_iff]
  constructor
  · intro honly hx
    cases honly _ hx
  · intro hne f hf
    rcases h.refuses f hf with rfl | hfamily
    · exact absurd hf hne
    · exact hfamily

theorem Verdict.run_bind {x : Run α} {f : α → Run β} {Accepts Stops Accepts' Stops' : Prop}
    (hx : Verdict x.outcome Accepts Stops)
    (hf : ∀ a, x.outcome = .ok a → Verdict (f a).outcome Accepts' Stops') :
    Verdict (x >>= f).outcome (Accepts ∧ Accepts') (Stops ∨ Accepts ∧ Stops') := by
  rw [Run.outcome_bind]
  exact hx.bind hf

theorem Verdict.run_bind_dep {x : Run α} {f : α → Run β} {Accepts Stops : Prop}
    {Accepts' Stops' : α → Prop} (hx : Verdict x.outcome Accepts Stops)
    (hf : ∀ a, x.outcome = .ok a → Verdict (f a).outcome (Accepts' a) (Stops' a)) :
    Verdict (x >>= f).outcome (∃ a, x.outcome = .ok a ∧ Accepts' a)
      (Stops ∨ ∃ a, x.outcome = .ok a ∧ Stops' a) := by
  rw [Run.outcome_bind]
  exact hx.bind_dep hf

/-! ## Lists -/

/-- Some element is bad, and all elements in front of the first bad one are good. -/
def FirstFault (Good Bad : α → Prop) (xs : List α) : Prop :=
  ∃ before x after, xs = before ++ x :: after ∧ (∀ y ∈ before, Good y) ∧ Bad x

theorem firstFault_nil {Good Bad : α → Prop} : ¬ FirstFault Good Bad [] := by
  rintro ⟨before, x, after, h, _, _⟩
  simp at h

theorem firstFault_cons {Good Bad : α → Prop} {x : α} {xs : List α} :
    FirstFault Good Bad (x :: xs) ↔ Bad x ∨ Good x ∧ FirstFault Good Bad xs := by
  constructor
  · rintro ⟨before, y, after, h, hgood, hbad⟩
    cases before with
    | nil =>
      cases h
      exact .inl hbad
    | cons z before =>
      cases h
      obtain ⟨hx, hbefore⟩ := List.forall_mem_cons.mp hgood
      exact .inr ⟨hx, before, y, after, rfl, hbefore, hbad⟩
  · rintro (hbad | ⟨hx, before, y, after, rfl, hgood, hbad⟩)
    · exact ⟨[], x, xs, rfl, by simp, hbad⟩
    · exact ⟨x :: before, y, after, rfl, List.forall_mem_cons.mpr ⟨hx, hgood⟩, hbad⟩

section Lists

variable {Good Bad : β → Prop} {b : β} {bs : List β}

theorem verdict_nil [Faults ε] (a : α) :
    Verdict (.ok a : Except ε α) (∀ b ∈ [], Good b) (FirstFault Good Bad []) :=
  (verdict_ok a).congr (by simp) (by simp [firstFault_nil])

/-- A list is read by reading its first element and then the others. -/
theorem Verdict.cons [Faults ε] {x : Except ε α} {y : Except ε (List α)}
    (hx : Verdict x (Good b) (Bad b)) (hy : Verdict y (∀ b ∈ bs, Good b) (FirstFault Good Bad bs)) :
    Verdict (do return (← x) :: (← y)) (∀ c ∈ b :: bs, Good c) (FirstFault Good Bad (b :: bs)) := by
  refine (hx.bind fun a _ => hy.then_pure (a :: ·)).congr ?_ ?_
  · rw [List.forall_mem_cons]
  · rw [firstFault_cons]

theorem Verdict.run_cons {x : Run α} {y : Run (List α)} (hx : Verdict x.outcome (Good b) (Bad b))
    (hy : Verdict y.outcome (∀ b ∈ bs, Good b) (FirstFault Good Bad bs)) :
    Verdict (do return (← x) :: (← y) : Run (List α)).outcome (∀ c ∈ b :: bs, Good c)
      (FirstFault Good Bad (b :: bs)) := by
  have hsame : (do return (← x) :: (← y) : Run (List α)).outcome =
      (do return (← x.outcome) :: (← y.outcome)) := by
    rw [Run.outcome_bind]
    simp only [Run.outcome_bind]
    rfl
  rw [hsame]
  exact hx.cons hy

end Lists

end BucketMap
