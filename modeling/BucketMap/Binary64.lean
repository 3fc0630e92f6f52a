/-!
# Binary floating-point numbers

Numbers of the 64-bit binary format, by their exact values: a finite number is a natural
significand below `2 ^ 53` times a power of two not below `2 ^ (-1074)`, with a sign, so that the
two zeros differ.

* `Binary64.truncate?` is the integer part.
* `Binary64.sameAsInt` and `Binary64.same` compare by value, without rounding.
-/

namespace BucketMap

/-- A 64-bit binary floating-point number. -/
inductive Binary64
  | nan
  | infinity (negative : Bool)
  /-- The number `significand * 2 ^ exponent`, or its negative. -/
  | finite (negative : Bool) (significand : Nat) (exponent : Int)

namespace Binary64

/-- One of the two zeros. -/
def isZero : Binary64 → Bool
  | finite _ significand _ => significand = 0
  | _ => false

/-- The integer part of a finite number: the fraction is dropped. -/
def truncate? : Binary64 → Option Int
  | finite negative significand exponent =>
    let magnitude : Int :=
      if 0 ≤ exponent then significand * Nat.pow 2 exponent.toNat
      else significand / Nat.pow 2 (-exponent).toNat
    some (if negative then -magnitude else magnitude)
  | _ => none

/-- Two numbers of the form `m * 2 ^ e` are equal. -/
def sameScaled (m : Int) (e : Int) (n : Int) (f : Int) : Bool :=
  if e ≤ f then m = n * Nat.pow 2 (f - e).toNat else m * Nat.pow 2 (e - f).toNat = n

/-- The significand with its sign. -/
def signedSignificand (negative : Bool) (significand : Nat) : Int :=
  if negative then -significand else significand

/-- Equality by value: the zeros are equal, and what is no number equals itself alone. -/
def same : Binary64 → Binary64 → Bool
  | nan, nan => true
  | infinity a, infinity b => a = b
  | finite a m e, finite b n f => sameScaled (signedSignificand a m) e (signedSignificand b n) f
  | _, _ => false

/-- Equality with an integer by value. -/
def sameAsInt : Binary64 → Int → Bool
  | finite a m e, n => sameScaled (signedSignificand a m) e n 0
  | _, _ => false

end Binary64

end BucketMap
