import BucketMap.Binary64.Rounding
import BucketMap.Proofs.ShortNumeral
import Mathlib.Algebra.Order.Field.Power
import Mathlib.Data.Rat.Cast.Order
import Mathlib.Tactic.Positivity
import Mathlib.Tactic.Ring

/-!
# Floats of the 64-bit format

`Binary64` lists all pairs of a significand and an exponent; the format has those in the bounds of
`Binary64.InFormat` only. The nearest number of a fraction is in the format
(`Binary64.ofRatio_inFormat`): the exponent is taken from the binary logarithm, which keeps the
scaled fraction below `2 ^ 53`. The integer part of such a number is below `2 ^ 1024`, which is
short (`Binary64.InFormat.writable_truncate`).
-/

namespace BucketMap

namespace Binary64

/-- The significand and the exponent are in the bounds of the format. -/
def InFormat : Binary64 → Prop
  | finite _ significand exponent =>
    significand < 2 ^ 53 ∧ minExponent ≤ exponent ∧ exponent ≤ maxExponent
  | _ => True

/-! ## Scaled fractions -/

theorem scale_den_pos {num den : Nat} (hden : 0 < den) (shift : Int) :
    0 < (scale num den shift).2 := by
  unfold scale
  split
  · exact hden
  · exact Nat.mul_pos hden (Nat.pow_pos (by decide))

/-- Scaling multiplies the fraction by a power of two. -/
theorem scale_ratio {num den : Nat} (shift : Int) :
    ((scale num den shift).1 : ℚ) / (scale num den shift).2 = num / den * 2 ^ shift := by
  unfold scale
  split
  · rename_i hpos
    obtain ⟨k, rfl⟩ := Int.eq_ofNat_of_zero_le hpos
    simp only [Int.toNat_natCast, Nat.pow_eq, Nat.cast_mul, Nat.cast_pow, Nat.cast_ofNat,
      zpow_natCast]
    ring
  · rename_i hneg
    obtain ⟨k, hk⟩ : ∃ k : Nat, shift = -(k : Int) := ⟨(-shift).toNat, by omega⟩
    subst hk
    simp only [neg_neg, Int.toNat_natCast, Nat.pow_eq, Nat.cast_mul, Nat.cast_pow, Nat.cast_ofNat,
      zpow_neg, zpow_natCast]
    rw [div_mul_eq_div_div, div_eq_mul_inv]

theorem scale_lt_iff {num den : Nat} (hden : 0 < den) (e : Int) :
    (scale num den (-e)).1 < (scale num den (-e)).2 ↔ (num : ℚ) / den < 2 ^ e := by
  have hpos : (0 : ℚ) < (scale num den (-e)).2 := by exact_mod_cast scale_den_pos hden (-e)
  have htwo : (0 : ℚ) < 2 ^ e := by positivity
  rw [← Nat.cast_lt (α := ℚ), ← div_lt_one hpos, scale_ratio, zpow_neg, ← div_eq_mul_inv,
    div_lt_one htwo]

/-! ## The binary logarithm -/

theorem ratio_lt_log2 {num den : Nat} (hden : 0 < den) :
    (num : ℚ) / den < 2 ^ ((Nat.log2 num : Int) - Nat.log2 den + 1) := by
  have hdenq : (0 : ℚ) < den := by exact_mod_cast hden
  have hnum : (num : ℚ) < 2 ^ (Nat.log2 num + 1) := by exact_mod_cast Nat.lt_log2_self
  have hlow : (2 : ℚ) ^ Nat.log2 den ≤ den := by exact_mod_cast Nat.log2_self_le (by omega)
  have hsplit : (2 : ℚ) ^ ((Nat.log2 num : Int) - Nat.log2 den + 1) * 2 ^ Nat.log2 den =
      2 ^ (Nat.log2 num + 1) := by
    rw [← zpow_natCast, ← zpow_natCast, ← zpow_add₀ two_ne_zero]
    congr 1
    push_cast
    ring
  rw [div_lt_iff₀ hdenq]
  calc (num : ℚ) < 2 ^ (Nat.log2 num + 1) := hnum
    _ = 2 ^ ((Nat.log2 num : Int) - Nat.log2 den + 1) * 2 ^ Nat.log2 den := hsplit.symm
    _ ≤ 2 ^ ((Nat.log2 num : Int) - Nat.log2 den + 1) * den :=
      mul_le_mul_of_nonneg_left hlow (by positivity)

theorem ratio_lt_floorLog2 {num den : Nat} (hden : 0 < den) :
    (num : ℚ) / den < 2 ^ (floorLog2 num den + 1) := by
  unfold floorLog2
  dsimp only
  split
  · exact ratio_lt_log2 hden
  · rename_i hbelow
    rw [sub_add_cancel]
    exact (scale_lt_iff hden _).mp (Nat.lt_of_not_le hbelow)

/-! ## Rounding -/

theorem roundHalfEven_le {num den bound : Nat} (h : num < den * bound) :
    roundHalfEven num den ≤ bound := by
  have hq : num / den < bound := Nat.div_lt_of_lt_mul h
  unfold roundHalfEven
  dsimp only
  split_ifs <;> omega

theorem scale_lt_of_exponent {num den : Nat} (hden : 0 < den) {e : Int}
    (he : floorLog2 num den - 52 ≤ e) :
    (scale num den (-e)).1 < (scale num den (-e)).2 * 2 ^ 53 := by
  have hpos : (0 : ℚ) < (scale num den (-e)).2 := by exact_mod_cast scale_den_pos hden (-e)
  have htwo : (0 : ℚ) < 2 ^ e := by positivity
  have hratio : (num : ℚ) / den < 2 ^ 53 * 2 ^ e := by
    calc (num : ℚ) / den < 2 ^ (floorLog2 num den + 1) := ratio_lt_floorLog2 hden
      _ ≤ 2 ^ (53 + e) := zpow_le_zpow_right₀ one_le_two (by omega)
      _ = 2 ^ 53 * 2 ^ e := by rw [zpow_add₀ two_ne_zero]; norm_cast
  have hscaled : ((scale num den (-e)).1 : ℚ) / (scale num den (-e)).2 < 2 ^ 53 := by
    rw [scale_ratio, zpow_neg, ← div_eq_mul_inv, div_lt_iff₀ htwo]
    exact hratio
  rw [div_lt_iff₀ hpos, mul_comm] at hscaled
  exact_mod_cast hscaled

/-- The nearest number of a fraction is in the format. -/
theorem ofRatio_inFormat (negative : Bool) {num den : Nat} (hden : 0 < den) :
    (ofRatio negative num den).InFormat := by
  unfold ofRatio
  split
  · exact ⟨by decide, by decide, by decide⟩
  · dsimp only
    have hround := roundHalfEven_le
      (scale_lt_of_exponent hden (le_max_left (floorLog2 num den - 52) minExponent))
    have hleast := le_max_right (floorLog2 num den - 52) minExponent
    generalize max (floorLog2 num den - 52) minExponent = e at hround hleast ⊢
    generalize roundHalfEven (scale num den (-e)).1 (scale num den (-e)).2 = m at hround ⊢
    -- A significand that is rounded up to 2 ^ 53 is halved, and the exponent is raised for it.
    by_cases hfull : m = Nat.pow 2 53
    · rw [if_pos hfull]
      dsimp only
      split
      · trivial
      · exact ⟨by decide, by omega, by omega⟩
    · rw [if_neg hfull]
      dsimp only
      split
      · trivial
      · refine ⟨Nat.lt_of_le_of_ne hround hfull, hleast, by omega⟩

theorem ofDecimal_inFormat (negative : Bool) (digits : Nat) (exponent : Int) :
    (ofDecimal negative digits exponent).InFormat := by
  unfold ofDecimal
  split_ifs
  · exact ⟨by decide, by decide, by decide⟩
  · trivial
  · exact ⟨by decide, by decide, by decide⟩
  · exact ofRatio_inFormat negative Nat.one_pos
  · exact ofRatio_inFormat negative (Nat.pow_pos (by decide))

/-! ## Integer parts -/

theorem fits_of_lt_two_pow {n : Int} {k : Nat} (h : n.natAbs < 2 ^ k) : Numeral.Fits k n :=
  Nat.lt_of_lt_of_le h (Nat.pow_le_pow_left (by decide) k)

theorem fits_truncate {negative : Bool} {significand : Nat} {exponent n : Int}
    (hsignificand : significand < 2 ^ 53)
    (hn : (finite negative significand exponent).truncate? = some n) :
    Numeral.Fits (53 + exponent.toNat) n := by
  apply fits_of_lt_two_pow
  have hpos : 0 < 2 ^ exponent.toNat := Nat.pow_pos (by decide)
  rw [Nat.pow_add]
  unfold truncate? at hn
  dsimp only at hn
  by_cases he : 0 ≤ exponent
  · have habs : n.natAbs = significand * 2 ^ exponent.toNat := by
      rw [if_pos he, Option.some.injEq] at hn
      subst hn
      split <;> simp [Int.natAbs_mul, Int.natAbs_pow]
    rw [habs]
    exact Nat.mul_lt_mul_of_pos_right hsignificand hpos
  · have habs : n.natAbs = significand / 2 ^ (-exponent).toNat := by
      rw [if_neg he, Option.some.injEq, ← Int.natCast_ediv] at hn
      subst hn
      split
      · rw [Int.natAbs_neg, Int.natAbs_natCast, Nat.pow_eq]
      · rw [Int.natAbs_natCast, Nat.pow_eq]
    rw [habs]
    calc significand / 2 ^ (-exponent).toNat ≤ significand := Nat.div_le_self _ _
      _ < 2 ^ 53 := hsignificand
      _ ≤ 2 ^ 53 * 2 ^ exponent.toNat := Nat.le_mul_of_pos_right _ hpos

/-- The integer part of a number of the format can be written. -/
theorem InFormat.writable_truncate {x : Binary64} (h : x.InFormat) {n : Int}
    (hn : x.truncate? = some n) : Numeral.Writable n := by
  cases x with
  | nan => cases hn
  | infinity negative => cases hn
  | finite negative significand exponent =>
    obtain ⟨hsignificand, _, hexponent⟩ := h
    apply (fits_truncate hsignificand hn).writable
    unfold maxExponent at hexponent
    unfold Numeral.maxDigits
    omega

end Binary64

end BucketMap
