import BucketMap.Text.Blank
import BucketMap.Text.Quoted

/-!
# Decimal numerals

Integers of any size are read from and written as decimal numerals of at most
`Numeral.maxDigits` digits.

* `Numeral.read` accepts white space around the numeral, a sign, digits of any script and single
  underscores between digits; leading zeros are digits like others.
* `Numeral.write` writes the shortest numeral.
-/

namespace BucketMap

/-- Why a text is refused as an integer. -/
inductive NumeralFault
  /-- The text is no numeral. -/
  | malformed (text : Text)
  /-- The numeral has more digits than are read. -/
  | tooManyDigits (count : Nat)

/-- The integer has more digits than are written. -/
inductive NumeralTooLong
  | tooLong

namespace Numeral

/-- The greatest number of digits that is read or written. -/
def maxDigits : Nat := 4300

/-! ## Reading -/

/-- White space around a numeral: all but the information separators. -/
def isPadding (c : CodePoint) : Bool :=
  if c.val < 128 then c.isAsciiSpace else c.isBlank

/-- A sign in front of a numeral: whether it is a minus, and the text behind it. -/
def sign : Text → Bool × Text
  | [] => (false, [])
  | c :: rest =>
    if c = '-' then (true, rest) else if c = '+' then (false, rest) else (false, c :: rest)

/-- The value of a digit; the underscore is the only other member of a numeral's body. -/
def member? (c : CodePoint) : Option (Option Nat) :=
  if c = '_' then some none else c.digit?.map some

/-- The digits and underscores at the start of a text and what follows them. -/
def body : Text → List (Option Nat) × Text
  | [] => ([], [])
  | c :: rest =>
    match member? c with
    | some m =>
      let (members, after) := body rest
      (m :: members, after)
    | none => ([], c :: rest)

/-- The digits of a body in which every underscore stands between two digits. -/
def digits? : List (Option Nat) → Option (List Nat)
  | [some d] => some [d]
  | some d :: none :: some e :: rest => (digits? (some e :: rest)).map (d :: ·)
  | some d :: some e :: rest => (digits? (some e :: rest)).map (d :: ·)
  | _ => none

/-- The integer that a text names. -/
def read (t : Text) : Except NumeralFault Int :=
  let (negative, unsigned) := sign (t.dropWhile isPadding)
  let (members, after) := body unsigned
  match digits? members with
  | none => .error (.malformed t)
  | some digits =>
    if maxDigits < digits.length then .error (.tooManyDigits digits.length)
    else if after.all isPadding then
      let value : Int := Text.valueOf 10 digits
      .ok (if negative then -value else value)
    else .error (.malformed t)

/-! ## Writing -/

/-- The digits of a natural number. -/
def natural (n : Nat) : Text := (Nat.toDigits 10 n).map CodePoint.ofChar

/-- The numeral of an integer. -/
def numeral (n : Int) : Text :=
  if n < 0 then CodePoint.ofChar '-' :: natural n.natAbs else natural n.natAbs

/-- The numeral of an integer, if it is short enough. -/
def write (n : Int) : Except NumeralTooLong Text :=
  if maxDigits < (natural n.natAbs).length then .error .tooLong else .ok (numeral n)

end Numeral

end BucketMap
