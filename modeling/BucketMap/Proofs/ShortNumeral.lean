import BucketMap.Proofs.Writable
import Mathlib.Algebra.Group.Nat.Defs
import Mathlib.Data.List.Induction

/-!
# Numerals that are read can be written

Reading and writing have one limit: a numeral of at most `Numeral.maxDigits` digits is below the
power of ten with that exponent (`Text.valueOf_lt`), so the integer that it names can be written
again (`Numeral.writable_of_read`).
-/

namespace BucketMap

/-! ## Values of digits -/

theorem Text.valueOf_append_singleton (base : Nat) (ds : List Nat) (d : Nat) :
    Text.valueOf base (ds ++ [d]) = Text.valueOf base ds * base + d := by
  unfold Text.valueOf
  rw [List.foldl_append]
  rfl

theorem Text.valueOf_lt {base : Nat} {ds : List Nat} (h : ∀ d ∈ ds, d < base) :
    Text.valueOf base ds < base ^ ds.length := by
  induction ds using List.reverseRecOn with
  | nil => exact Nat.one_pos
  | append_singleton ds d ih =>
    have hd : d < base := h d (by simp)
    have hds : Text.valueOf base ds < base ^ ds.length :=
      ih fun d' hd' => h d' (List.mem_append_left _ hd')
    rw [Text.valueOf_append_singleton, List.length_append, List.length_singleton, Nat.pow_succ]
    calc Text.valueOf base ds * base + d
        < Text.valueOf base ds * base + base := by omega
      _ = (Text.valueOf base ds + 1) * base := by rw [Nat.add_mul, Nat.one_mul]
      _ ≤ base ^ ds.length * base := Nat.mul_le_mul_right base hds

theorem CodePoint.digit?_lt {c : CodePoint} {d : Nat} (h : c.digit? = some d) : d < 10 := by
  unfold digit? at h
  obtain ⟨z, hz, rfl⟩ := Option.map_eq_some_iff.mp h
  have hrange := List.find?_some hz
  simp only [Bool.and_eq_true, decide_eq_true_eq] at hrange
  omega

namespace Numeral

/-- A row of digits has no more digits than it shows. -/
theorem fits_of_valueOf {n : Int} {ds : List Nat} (hten : ∀ d ∈ ds, d < 10)
    (h : n.natAbs = Text.valueOf 10 ds) : Fits ds.length n := by
  unfold Fits
  rw [h]
  exact Text.valueOf_lt hten

/-! ## Reading -/

theorem lt_ten_of_mem_body {t : Text} {d : Nat} (h : some d ∈ (body t).1) : d < 10 := by
  induction t with
  | nil => cases h
  | cons c rest ih =>
    rw [body] at h
    split at h
    · rename_i m hm
      rcases List.mem_cons.mp h with rfl | h
      · unfold member? at hm
        split at hm
        · cases hm
        · obtain ⟨d', hd', heq⟩ := Option.map_eq_some_iff.mp hm
          cases heq
          exact CodePoint.digit?_lt hd'
      · exact ih h
    · cases h

/-- Every digit of a body is one of its members. -/
theorem mem_of_digits? {members : List (Option Nat)} {ds : List Nat}
    (h : digits? members = some ds) : ∀ d ∈ ds, some d ∈ members := by
  fun_induction digits? members generalizing ds with
  | case1 d =>
    cases h
    simp
  | case2 d e rest ih =>
    obtain ⟨others, hothers, rfl⟩ := Option.map_eq_some_iff.mp h
    intro d' hd'
    rcases List.mem_cons.mp hd' with rfl | hd'
    · exact List.mem_cons_self
    · exact List.mem_cons_of_mem _ (List.mem_cons_of_mem _ (ih hothers d' hd'))
  | case3 d e rest ih =>
    obtain ⟨others, hothers, rfl⟩ := Option.map_eq_some_iff.mp h
    intro d' hd'
    rcases List.mem_cons.mp hd' with rfl | hd'
    · exact List.mem_cons_self
    · exact List.mem_cons_of_mem _ (ih hothers d' hd')
  | case4 => cases h

/-- What is read can be written. -/
theorem writable_of_read {t : Text} {n : Int} (h : read t = .ok n) : Writable n := by
  unfold read at h
  dsimp only at h
  split at h
  · cases h
  · rename_i ds hds
    split at h
    · cases h
    · rename_i hshort
      split at h
      · have hten : ∀ d ∈ ds, d < 10 := fun d hd => lt_ten_of_mem_body (mem_of_digits? hds d hd)
        have hvalue : n.natAbs = Text.valueOf 10 ds := by
          cases h
          split <;> simp
        exact (fits_of_valueOf hten hvalue).writable (by omega)
      · cases h

end Numeral

end BucketMap
