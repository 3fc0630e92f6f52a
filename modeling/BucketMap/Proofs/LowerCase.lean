import BucketMap.Text.Blank
import BucketMap.Text.Case
import BucketMap.Text.Digit
import Mathlib.Data.List.Basic

/-!
# Lower case is lasting

A text in lower case has itself as its lower-case form (`Text.lower_lower`). Every code point gives
rise to one or two code points, which depend on its neighbours for the capital sigma only
(`LowerForm`); all of them are forms of their own (`CodePoint.Settled`). The table of letters is
looked at once, in `formsApart_of_mem` and the two statements behind it.

White space and the marks of network addresses have no lower-case form but themselves and are not
the form of anything else (`LowerForm.isBlank_iff`, `LowerForm.eq_iff_of_caseless`), and hexadecimal
digits keep their values (`CodePoint.hexDigit?_lower`).
-/

namespace BucketMap

/-! ## The table of letters -/

/-- No form of the letters of the first run is a letter of the second one: the intervals are apart,
or their members are the even and the odd ones. -/
def formsApart (r s : Nat × Nat × Nat × Nat) : Bool :=
  Nat.blt (r.2.2.2 + (r.2.1 - r.1)) s.1 || Nat.blt s.2.1 r.2.2.2 ||
    ((r.2.2.1 == 2 || r.1 == r.2.1) && s.2.2.1 == 2 && (r.2.2.2 + s.1) % 2 == 1)

/-- Neither the letters of a run nor their forms are in the interval. -/
def keepsOff (low high : Nat) (r : Nat × Nat × Nat × Nat) : Bool :=
  (Nat.blt r.2.1 low || Nat.blt high r.1) &&
    (Nat.blt (r.2.2.2 + (r.2.1 - r.1)) low || Nat.blt high r.2.2.2)

theorem formsApart_of_mem {r s : Nat × Nat × Nat × Nat} (hr : r ∈ lowerRuns) (hs : s ∈ lowerRuns) :
    formsApart r s = true := by
  have hall : (lowerRuns.all fun r => lowerRuns.all (formsApart r)) = true := by decide +kernel
  exact List.all_eq_true.mp (List.all_eq_true.mp hall r hr) s hs

theorem keepsOff_of_mem :
    ∀ r ∈ lowerRuns, keepsOff 0x0130 0x0130 r = true ∧
      ∀ b ∈ blankRanges, keepsOff b.1 b.2 r = true := by
  decide +kernel

/-- Besides the capital letters of the first 128 code points, letters and forms lie behind `f`. -/
theorem ascii_of_mem :
    ∀ r ∈ lowerRuns, r = (0x41, 0x5A, 1, 0x61) ∨ 0x80 ≤ r.1 ∧ 0x67 ≤ r.2.2.2 := by
  decide +kernel

theorem step_of_mem :
    ∀ r ∈ lowerRuns, 0 < r.2.2.1 ∧ r.2.2.1 ≤ 2 ∧ r.2.2.2 + (r.2.1 - r.1) < 0x110000 := by
  decide +kernel

namespace CodePoint

variable {c : CodePoint}

/-- A code point stays what it is, unless it is a letter of a run. -/
theorem lower_cases (c : CodePoint) :
    (c.lower = c ∧ ∀ first last step form, (first, last, step, form) ∈ lowerRuns →
      first ≤ c.val → c.val ≤ last → (c.val - first) % step ≠ 0) ∨
    ∃ first last step form, (first, last, step, form) ∈ lowerRuns ∧ first ≤ c.val ∧ c.val ≤ last ∧
      (c.val - first) % step = 0 ∧ c.lower.val = form + (c.val - first) := by
  unfold lower
  split
  · rename_i r hr
    obtain ⟨first, last, step, form⟩ := r
    have hmem := List.mem_of_find?_eq_some hr
    have hrange := List.find?_some hr
    simp only [Bool.and_eq_true, decide_eq_true_eq] at hrange
    obtain ⟨⟨hlow, hhigh⟩, hstep⟩ := hrange
    obtain ⟨-, -, hlt⟩ := step_of_mem _ hmem
    dsimp only at hlt
    refine .inr ⟨first, last, step, form, hmem, hlow, hhigh, hstep, val_ofNat ?_⟩
    dsimp only
    omega
  · rename_i hnone
    refine .inl ⟨rfl, ?_⟩
    intro first last step form hmem hlow hhigh hstep
    have hno := List.find?_eq_none.mp hnone _ hmem
    simp [hlow, hhigh, hstep] at hno

/-- The code point is its own lower-case form in every text. -/
structure Settled (c : CodePoint) : Prop where
  lower_eq : c.lower = c
  ne_capitalSigma : c ≠ capitalSigma
  ne_capitalDottedI : c ≠ capitalDottedI

theorem settled_of_lower_eq (h : c.lower = c) (hne : c ≠ capitalDottedI) : Settled c := by
  refine ⟨h, ?_, hne⟩
  rintro rfl
  exact absurd h (by decide)

theorem lower_lower (c : CodePoint) : c.lower.lower = c.lower := by
  rcases lower_cases c with ⟨hc, -⟩ | ⟨first, last, step, form, hmem, hlow, hhigh, hstep, hval⟩
  · rw [hc, hc]
  rcases lower_cases c.lower with ⟨hc, -⟩ | ⟨first', last', step', form', hmem', hlow', hhigh', hstep', -⟩
  · exact hc
  · -- A form in a second run would be on the grid of that run.
    have hapart := formsApart_of_mem hmem hmem'
    simp only [formsApart, Bool.or_eq_true, Bool.and_eq_true, Nat.blt_eq, beq_iff_eq] at hapart
    rcases hapart with (hbefore | hbehind) | ⟨⟨hgrid, htwo⟩, hodd⟩
    · omega
    · omega
    · subst htwo
      rcases hgrid with rfl | rfl <;> omega

theorem lower_ne_capitalDottedI (hne : c ≠ capitalDottedI) : c.lower ≠ capitalDottedI := by
  rcases lower_cases c with ⟨hc, -⟩ | ⟨first, last, step, form, hmem, hlow, hhigh, -, hval⟩
  · rwa [hc]
  · obtain ⟨hoff, -⟩ := keepsOff_of_mem _ hmem
    simp only [keepsOff, Bool.or_eq_true, Bool.and_eq_true, Nat.blt_eq] at hoff
    intro heq
    rw [heq] at hval
    have hdotted : capitalDottedI.val = 0x0130 := rfl
    omega

/-- Below 128 only the capital letters `A` to `Z` have another form, and no other letter has one of
the digits, the marks or the letters `a` to `f` as its form. -/
theorem lower_ascii_cases (c : CodePoint) :
    c.lower = c ∨ (0x41 ≤ c.val ∧ c.val ≤ 0x5A ∧ c.lower.val = c.val + 0x20) ∨
      (0x80 ≤ c.val ∧ 0x67 ≤ c.lower.val) := by
  rcases lower_cases c with ⟨hc, -⟩ | ⟨first, last, step, form, hmem, hlow, hhigh, -, hval⟩
  · exact .inl hc
  · rcases ascii_of_mem _ hmem with hfirst | ⟨hsource, hform⟩
    · simp only [Prod.mk.injEq] at hfirst
      obtain ⟨rfl, rfl, -, rfl⟩ := hfirst
      exact .inr (.inl ⟨hlow, hhigh, by omega⟩)
    · dsimp only at hsource hform
      exact .inr (.inr ⟨by omega, by omega⟩)

/-- A code point in front of `a` that is no capital letter, such as digits and the marks of network
addresses. -/
def Caseless (c : CodePoint) : Prop := c.val < 0x41 ∨ (0x5A < c.val ∧ c.val < 0x61)

instance (c : CodePoint) : Decidable c.Caseless := inferInstanceAs (Decidable (_ ∨ _))

theorem lower_eq_iff_of_caseless {m : CodePoint} (hm : m.Caseless) : c.lower = m ↔ c = m := by
  unfold Caseless at hm
  rcases lower_ascii_cases c with hc | ⟨hlow, hhigh, hval⟩ | ⟨hsource, hform⟩
  · rw [hc]
  · constructor
    · rintro rfl
      omega
    · rintro rfl
      omega
  · constructor
    · rintro rfl
      omega
    · rintro rfl
      omega

theorem hexDigit?_eq_none (h : 0x39 < c.val) (hupper : c.val < 0x41 ∨ 0x46 < c.val)
    (hlower : c.val < 0x61 ∨ 0x66 < c.val) : c.hexDigit? = none := by
  unfold hexDigit?
  simp only [Bool.and_eq_true, decide_eq_true_eq]
  rw [if_neg (by omega), if_neg (by omega), if_neg (by omega)]

theorem hexDigit?_lower (c : CodePoint) : c.lower.hexDigit? = c.hexDigit? := by
  rcases lower_ascii_cases c with hc | ⟨hlow, hhigh, hval⟩ | ⟨hsource, hform⟩
  · rw [hc]
  · by_cases hsix : c.val ≤ 0x46
    · unfold hexDigit?
      simp only [hval, Bool.and_eq_true, decide_eq_true_eq]
      rw [if_neg (by omega), if_pos (by omega), if_neg (by omega), if_neg (by omega),
        if_pos (by omega), Option.some.injEq]
      omega
    · rw [hexDigit?_eq_none (by omega) (by omega) (by omega),
        hexDigit?_eq_none (by omega) (by omega) (by omega)]
  · rw [hexDigit?_eq_none (by omega) (by omega) (by omega),
      hexDigit?_eq_none (by omega) (by omega) (by omega)]

theorem isBlank_lower (c : CodePoint) : c.lower.isBlank = c.isBlank := by
  rcases lower_cases c with ⟨hc, -⟩ | ⟨first, last, step, form, hmem, hlow, hhigh, -, hval⟩
  · rw [hc]
  · obtain ⟨-, hoff⟩ := keepsOff_of_mem _ hmem
    have hno : ∀ d : CodePoint, (first ≤ d.val ∧ d.val ≤ last ∨ form ≤ d.val ∧ d.val ≤ form + (last - first)) →
        d.isBlank = false := by
      intro d hd
      unfold isBlank isIn
      rw [List.any_eq_false]
      intro b hb
      have hb' := hoff b hb
      simp only [keepsOff, Bool.or_eq_true, Bool.and_eq_true, Nat.blt_eq] at hb'
      simp only [Bool.and_eq_true, decide_eq_true_eq]
      omega
    rw [hno c (.inl ⟨hlow, hhigh⟩), hno c.lower (.inr ⟨by omega, by omega⟩)]

end CodePoint

/-! ## Forms in texts -/

open CodePoint

/-- The lower-case forms that a code point has in texts. -/
inductive LowerForm : CodePoint → Text → Prop
  | simple {c : CodePoint} (hne : c ≠ capitalDottedI) : LowerForm c [c.lower]
  | finalSigma : LowerForm capitalSigma [.ofNat 0x03C2]
  | dottedI : LowerForm capitalDottedI [.ofChar 'i', .ofNat 0x0307]

namespace LowerForm

variable {c : CodePoint} {form : Text}

theorem settled (h : LowerForm c form) : ∀ d ∈ form, d.Settled := by
  cases h with
  | simple hne =>
    intro d hd
    rw [List.mem_singleton.mp hd]
    exact settled_of_lower_eq (lower_lower c) (lower_ne_capitalDottedI hne)
  | finalSigma =>
    intro d hd
    rw [List.mem_singleton.mp hd]
    exact settled_of_lower_eq (by decide) (by decide)
  | dottedI =>
    intro d hd
    rcases List.mem_cons.mp hd with rfl | hd
    · exact settled_of_lower_eq (by decide) (by decide)
    · rw [List.mem_singleton.mp hd]
      exact settled_of_lower_eq (by decide) (by decide)

theorem ne_nil (h : LowerForm c form) : form ≠ [] := by
  cases h <;> simp

/-- A property that lower-case letters keep, and that no letter with a form of its own has, holds of
the members of a form exactly if it holds of the code point. -/
theorem forall_iff {P : CodePoint → Prop} (h : LowerForm c form) (hlower : ∀ c, P c.lower ↔ P c)
    (hspecial : ¬ P (.ofNat 0x03C2) ∧ ¬ P capitalSigma ∧ ¬ P (.ofChar 'i') ∧ ¬ P (.ofNat 0x0307) ∧
      ¬ P capitalDottedI) : ∀ d ∈ form, P d ↔ P c := by
  obtain ⟨hfinal, hsigma, hi, hdot, hdotted⟩ := hspecial
  cases h with
  | simple hne =>
    intro d hd
    rw [List.mem_singleton.mp hd]
    exact hlower c
  | finalSigma =>
    intro d hd
    rw [List.mem_singleton.mp hd]
    exact iff_of_false hfinal hsigma
  | dottedI =>
    intro d hd
    rcases List.mem_cons.mp hd with rfl | hd
    · exact iff_of_false hi hdotted
    · rw [List.mem_singleton.mp hd]
      exact iff_of_false hdot hdotted

theorem isBlank_iff (h : LowerForm c form) : ∀ d ∈ form, d.isBlank = true ↔ c.isBlank = true :=
  h.forall_iff (fun c => by rw [isBlank_lower]) (by decide)

theorem eq_iff_of_caseless {m : CodePoint} (hm : m.Caseless) (h : LowerForm c form) :
    ∀ d ∈ form, d = m ↔ c = m := by
  refine h.forall_iff (P := (· = m)) (fun c => lower_eq_iff_of_caseless hm) ?_
  refine ⟨?_, ?_, ?_, ?_, ?_⟩ <;> rintro rfl <;> exact absurd hm (by decide)

theorem eq_singleton_of_caseless {m : CodePoint} (hm : m.Caseless) (h : LowerForm m form) :
    form = [m] := by
  cases h with
  | simple hne => rw [(lower_eq_iff_of_caseless hm).mpr rfl]
  | finalSigma => exact absurd hm (by decide)
  | dottedI => exact absurd hm (by decide)

end LowerForm

namespace Text

/-- The second text puts a lower-case form in the place of each code point of the first one. -/
inductive Lowered : Text → Text → Prop
  | nil : Lowered [] []
  | cons {c : CodePoint} {form t t' : Text} (hform : LowerForm c form) (h : Lowered t t') :
      Lowered (c :: t) (form ++ t')

theorem lowered_lowerAfter (before t : Text) : Lowered t (lowerAfter before t) := by
  induction t generalizing before with
  | nil => exact .nil
  | cons c rest ih =>
    rw [lowerAfter]
    refine .cons ?_ (ih _)
    split
    · rename_i hsigma
      subst hsigma
      have hlower : ofNat 0x03C3 = capitalSigma.lower := by decide
      split
      · exact .finalSigma
      · rw [hlower]
        exact .simple (by decide)
    · split
      · rename_i hdotted
        subst hdotted
        exact .dottedI
      · rename_i hne
        exact .simple hne

theorem lowered_lower (t : Text) : Lowered t (lower t) := lowered_lowerAfter [] t

variable {t t' : Text}

theorem Lowered.settled (h : Lowered t t') : ∀ d ∈ t', d.Settled := by
  induction h with
  | nil => simp
  | cons hform _ ih =>
    intro d hd
    rcases List.mem_append.mp hd with hd | hd
    · exact hform.settled d hd
    · exact ih d hd

theorem lowerAfter_of_settled (before : Text) (h : ∀ c ∈ t, c.Settled) : lowerAfter before t = t := by
  induction t generalizing before with
  | nil => rfl
  | cons c rest ih =>
    obtain ⟨hc, hrest⟩ := List.forall_mem_cons.mp h
    rw [lowerAfter, if_neg hc.ne_capitalSigma, if_neg hc.ne_capitalDottedI, hc.lower_eq, ih _ hrest]
    rfl

/-- A text in lower case stays as it is. -/
theorem lower_lower (t : Text) : lower (lower t) = lower t :=
  lowerAfter_of_settled [] (lowered_lower t).settled

theorem Lowered.eq_nil_iff (h : Lowered t t') : t' = [] ↔ t = [] := by
  cases h with
  | nil => simp
  | cons hform _ => simp [hform.ne_nil]

theorem Lowered.mem_iff_of_caseless {m : CodePoint} (hm : m.Caseless) (h : Lowered t t') :
    m ∈ t' ↔ m ∈ t := by
  induction h with
  | nil => rfl
  | @cons c form t t' hform _ ih =>
    have hfirst : m ∈ form ↔ m = c := by
      constructor
      · intro hmem
        exact ((hform.eq_iff_of_caseless hm m hmem).mp rfl).symm
      · rintro rfl
        obtain ⟨d, hd⟩ := List.exists_mem_of_ne_nil form hform.ne_nil
        rwa [← (hform.eq_iff_of_caseless hm d hd).mpr rfl]
    rw [List.mem_append, List.mem_cons, hfirst, ih]

/-- Without letters in lower case there were none in capitals. -/
theorem Lowered.eq_of_caseless (h : Lowered t t') (hcaseless : ∀ c ∈ t', c.Caseless) : t = t' := by
  induction h with
  | nil => rfl
  | cons hform _ ih =>
    rw [ih fun d hd => hcaseless d (List.mem_append_right _ hd)]
    cases hform with
    | simple hne =>
      have hc := (lower_eq_iff_of_caseless (hcaseless _ List.mem_cons_self)).mp rfl
      rw [← hc]
      rfl
    | finalSigma => exact absurd (hcaseless _ List.mem_cons_self) (by decide)
    | dottedI => exact absurd (hcaseless _ List.mem_cons_self) (by decide)

/-- What stands in front of a mark and behind it is the form of what stood there. -/
theorem Lowered.exists_of_append_cons {m : CodePoint} (hm : m.Caseless) {u' v' : Text}
    (h : Lowered t (u' ++ m :: v')) :
    ∃ u v, t = u ++ m :: v ∧ Lowered u u' ∧ Lowered v v' := by
  generalize heq : u' ++ m :: v' = t' at h
  induction h generalizing u' with
  | nil => simp at heq
  | @cons c form t t' hform h ih =>
    rcases List.append_eq_append_iff.mp heq with ⟨front, hfront, htail⟩ | ⟨behind, rfl, htail⟩
    · -- The mark is no part of a longer form, so the form ends in front of the mark or is the mark.
      cases front with
      | nil =>
        rw [List.append_nil] at hfront
        subst hfront
        obtain ⟨u, v, rfl, hu, hv⟩ := @ih [] htail
        exact ⟨c :: u, v, rfl, by simpa using Lowered.cons hform hu, hv⟩
      | cons d front =>
        cases htail
        have hc : m = c := (hform.eq_iff_of_caseless hm m (by simp [hfront])).mp rfl |>.symm
        subst hc
        rw [hform.eq_singleton_of_caseless hm] at hfront
        cases u' with
        | nil =>
          cases hfront
          exact ⟨[], t, rfl, .nil, h⟩
        | cons e u' => simp at hfront
    · obtain ⟨u, v, rfl, hu, hv⟩ := ih htail.symm
      exact ⟨c :: u, v, rfl, .cons hform hu, hv⟩

/-- A property that all forms keep holds of the first letter in lower case as before. -/
theorem Lowered.head_iff {P : CodePoint → Prop}
    (hP : ∀ c form, LowerForm c form → ∀ d ∈ form, P d ↔ P c) (h : Lowered t t') :
    (∀ d, t'.head? = some d → P d) ↔ ∀ c, t.head? = some c → P c := by
  cases h with
  | nil => rfl
  | @cons c form t t' hform h =>
    cases form with
    | nil => exact absurd rfl hform.ne_nil
    | cons d form => simpa using hP c _ hform d List.mem_cons_self

theorem Lowered.last_iff {P : CodePoint → Prop}
    (hP : ∀ c form, LowerForm c form → ∀ d ∈ form, P d ↔ P c) (h : Lowered t t') :
    (∀ d, t'.getLast? = some d → P d) ↔ ∀ c, t.getLast? = some c → P c := by
  induction h with
  | nil => rfl
  | @cons c form t t' hform h ih =>
    cases t with
    | nil =>
      have hlast := List.getLast?_eq_some_getLast hform.ne_nil
      rw [h.eq_nil_iff.mpr rfl, List.append_nil, hlast]
      simpa using hP c _ hform _ (List.getLast_mem hform.ne_nil)
    | cons next t =>
      have hne : t' ≠ [] := fun hnil => by cases h.eq_nil_iff.mp hnil
      rw [List.getLast?_append_of_ne_nil _ hne, List.getLast?_cons_cons]
      exact ih

end Text

end BucketMap
