import BucketMap.Binary64.Rounding
import BucketMap.Numeral

/-!
# Shortest decimal form

A finite number is written with the fewest decimal digits that read back as the same number; of
two such forms of one length the nearer one is taken, and of two equally near ones the even one.

* `Binary64.shortest` finds the digits: on the grids of one, two, ... seventeen digits it tries
  the two neighbours of the number.
* `Binary64.text` lays them out: positional if the first digit stands between the fourth place
  after the point and the sixteenth place before it, with an exponent of at least two digits
  otherwise; a point is always followed by a digit.
-/

namespace BucketMap

namespace Binary64

/-- A decimal number `digits * 10 ^ exponent`. -/
structure Decimal where
  digits : Nat
  exponent : Int

/-- The absolute value of a finite number as a fraction. -/
def ratio (significand : Nat) (exponent : Int) : Nat × Nat := scale significand 1 exponent

/-- The fraction divided by `10 ^ exponent`. -/
def inUnits (num den : Nat) (exponent : Int) : Nat × Nat :=
  if 0 ≤ exponent then (num, den * Nat.pow 10 exponent.toNat)
  else (num * Nat.pow 10 (-exponent).toNat, den)

/-- Steps from a guess to the greatest `k` with `10 ^ k ≤ num / den`. -/
def settleLog10 (num den : Nat) : Nat → Int → Int
  | 0, guess => guess
  | fuel + 1, guess =>
    let (a, b) := inUnits num den guess
    if a < b then settleLog10 num den fuel (guess - 1)
    else if 10 * b ≤ a then settleLog10 num den fuel (guess + 1)
    else guess

/-- The greatest `k` with `10 ^ k ≤ num / den`, for a positive fraction in range. -/
def floorLog10 (num den : Nat) : Int :=
  settleLog10 num den 8 ((floorLog2 num den * 30103) / 100000)

/-- The decimal number reads back as the given significand and exponent. -/
def readsBack (significand : Nat) (exponent : Int) (d : Decimal) : Bool :=
  match ofDecimal false d.digits d.exponent with
  | .finite _ m e => m = significand && e = exponent
  | _ => false

/-- The neighbours of the number on a grid that read back, the nearer one first. -/
def onGrid (significand : Nat) (exponent unit : Int) : Option Decimal :=
  let (num, den) := ratio significand exponent
  let (a, b) := inUnits num den unit
  let below : Decimal := ⟨a / b, unit⟩
  let above : Decimal := ⟨a / b + 1, unit⟩
  let nearBelow := 2 * (a % b) < b ∨ (2 * (a % b) = b ∧ a / b % 2 = 0)
  let candidates := if nearBelow then [below, above] else [above, below]
  candidates.find? (readsBack significand exponent)

/-- The first grid, of those with the given numbers of digits, that has a hit. -/
def firstGrid (significand : Nat) (exponent leading : Int) : List Nat → Option Decimal
  | [] => none
  | count :: counts =>
    match onGrid significand exponent (leading - count + 1) with
    | some d => some d
    | none => firstGrid significand exponent leading counts

/-- The shortest decimal number that reads back, for a positive significand. -/
def shortest (significand : Nat) (exponent : Int) : Decimal :=
  let (num, den) := ratio significand exponent
  let leading := floorLog10 num den
  (firstGrid significand exponent leading (List.range' 1 17)).getD ⟨0, 0⟩

/-- The text of digits whose first one has the place value `10 ^ leading`. -/
def layout (digits : Text) (leading : Int) : Text :=
  let point : Text := ['.']
  let zeros (n : Nat) : Text := List.replicate n '0'
  if -4 ≤ leading && leading < 16 then
    if leading < 0 then zeros 1 ++ point ++ zeros (-leading - 1).toNat ++ digits
    else
      let whole := leading.toNat + 1
      let padded := digits ++ zeros (whole - digits.length)
      let fraction := padded.drop whole
      padded.take whole ++ point ++ (if fraction.isEmpty then zeros 1 else fraction)
  else
    let fraction := digits.drop 1
    let mantissa := digits.take 1 ++ (if fraction.isEmpty then [] else point ++ fraction)
    let power := Numeral.natural leading.natAbs
    let mark : Text := ['e', if leading < 0 then '-' else '+']
    mantissa ++ mark ++ zeros (2 - power.length) ++ power

/-- The text of a number. -/
def text : Binary64 → Text
  | nan => Text.ofString "nan"
  | infinity negative => Text.ofString (if negative then "-inf" else "inf")
  | finite negative significand exponent =>
    let magnitude : Text :=
      if significand = 0 then Text.ofString "0.0"
      else
        let d := shortest significand exponent
        let all := Numeral.natural d.digits
        let kept := (all.reverse.dropWhile (· = CodePoint.ofChar '0')).reverse
        layout kept (d.exponent + all.length - 1)
    if negative then CodePoint.ofChar '-' :: magnitude else magnitude

end Binary64

end BucketMap
