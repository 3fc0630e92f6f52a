import BucketMap.Binary64

/-!
# Rounding to binary floating point

* `Binary64.ofRatio` rounds a positive fraction to the nearest number of the format, a tie to the
  even significand; what exceeds the greatest finite number becomes infinite.
* `Binary64.ofDecimal` does so for `digits * 10 ^ exponent`.
-/

namespace BucketMap

/-- The quotient rounded to the nearest natural number, a tie to the even one. -/
def roundHalfEven (num den : Nat) : Nat :=
  let q := num / den
  let r := num % den
  if 2 * r < den then q
  else if den < 2 * r then q + 1
  else if q % 2 = 0 then q
  else q + 1

namespace Binary64

/-- The least exponent of a finite number. -/
def minExponent : Int := -1074

/-- The greatest exponent of a finite number. -/
def maxExponent : Int := 971

/-- The fraction `num / den` multiplied by `2 ^ shift`. -/
def scale (num den : Nat) (shift : Int) : Nat × Nat :=
  if 0 ≤ shift then (num * Nat.pow 2 shift.toNat, den) else (num, den * Nat.pow 2 (-shift).toNat)

/-- The greatest `k` with `2 ^ k ≤ num / den`, for positive arguments. -/
def floorLog2 (num den : Nat) : Int :=
  let guess : Int := (Nat.log2 num : Int) - Nat.log2 den
  let (scaledNum, scaledDen) := scale num den (-guess)
  if scaledDen ≤ scaledNum then guess else guess - 1

/-- The number of the format nearest to `num / den` (with a sign). -/
def ofRatio (negative : Bool) (num den : Nat) : Binary64 :=
  if num = 0 then .finite negative 0 0
  else
    let exponent := max (floorLog2 num den - 52) minExponent
    let (scaledNum, scaledDen) := scale num den (-exponent)
    let significand := roundHalfEven scaledNum scaledDen
    let (significand, exponent) :=
      if significand = Nat.pow 2 53 then (Nat.pow 2 52, exponent + 1) else (significand, exponent)
    if maxExponent < exponent then .infinity negative
    else .finite negative significand exponent

/-- The number of decimal digits, for a positive number. -/
def decimalLength (n : Nat) : Nat := (Nat.toDigits 10 n).length

/--
The number of the format nearest to `digits * 10 ^ exponent`. Beyond the 400th place on either
side of the point the result no longer depends on the exponent, which is therefore not raised.
-/
def ofDecimal (negative : Bool) (digits : Nat) (exponent : Int) : Binary64 :=
  if digits = 0 then .finite negative 0 0
  else if exponent + decimalLength digits > 400 then .infinity negative
  else if exponent + decimalLength digits < -400 then .finite negative 0 0
  else if 0 ≤ exponent then ofRatio negative (digits * Nat.pow 10 exponent.toNat) 1
  else ofRatio negative digits (Nat.pow 10 (-exponent).toNat)

end Binary64

end BucketMap
