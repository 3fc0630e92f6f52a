import BucketMap.Binary64.Rounding
import BucketMap.Json.Fault

/-!
# Tokens of JSON text

A text is cut into tokens with their positions, up to its end or to the first place where no token
starts. What is wrong there is itself a token: it counts only if a value is expected, since the
grammar may already refuse any token at that place.

* `Json.Token.number` reads the longest number at a place. A point or an exponent mark without
  digits behind it does not belong to the number.
* `Json.Token.string` reads a string. An escaped high surrogate and an escaped low one directly
  behind it are one code point; other surrogates stay alone.
-/

namespace BucketMap

namespace Json

namespace Token

/-! ## Numbers -/

/-- The digits at the start of a text, and the rest. -/
def digits (t : Text) : Text × Text := (t.takeWhile (·.isAsciiDigit), t.dropWhile (·.isAsciiDigit))

/-- The value of ASCII digits. -/
def digitsValue (t : Text) : Nat := Text.valueOf 10 (t.map fun c => c.val - 48)

/-- A minus at the start of a text, and the rest. -/
def minus : Text → Bool × Text
  | [] => (false, [])
  | c :: rest => if c = '-' then (true, rest) else (false, c :: rest)

/-- The digits before the point: a zero alone, or digits that start with another one. -/
def whole (t : Text) : Text × Text :=
  match t with
  | [] => ([], [])
  | c :: rest => if c = '0' then ([c], rest) else digits t

/-- A point and digits. -/
def fraction? : Text → Option (Text × Text)
  | c :: rest =>
    if c = '.' then
      let (ds, after) := digits rest
      if ds.isEmpty then none else some (ds, after)
    else none
  | [] => none

/-- An exponent mark, a sign and digits. -/
def exponent? : Text → Option (Int × Text)
  | c :: rest =>
    if c = 'e' ∨ c = 'E' then
      let (negative, unsigned) :=
        match rest with
        | s :: more => if s = '-' then (true, more) else if s = '+' then (false, more) else (false, rest)
        | [] => (false, [])
      let (ds, after) := digits unsigned
      let value : Int := digitsValue ds
      if ds.isEmpty then none else some (if negative then -value else value, after)
    else none
  | [] => none

/-- A number as it is written. -/
structure Number where
  negative : Bool
  whole : Text
  fraction : Option Text
  exponent : Option Int

/-- The number at the start of a text. -/
def number? (t : Text) : Option (Number × Text) :=
  let (negative, unsigned) := minus t
  let (before, afterWhole) := whole unsigned
  if before.isEmpty then none
  else
    let (part, afterPart) :=
      match fraction? afterWhole with
      | some (ds, after) => (some ds, after)
      | none => (none, afterWhole)
    match exponent? afterPart with
    | some (e, after) => some (⟨negative, before, part, some e⟩, after)
    | none => some (⟨negative, before, part, none⟩, afterPart)

/-- A number without point and exponent is an integer, every other one a float. -/
def Number.value (n : Number) : Json :=
  match n.fraction, n.exponent with
  | none, none =>
    let magnitude : Int := digitsValue n.whole
    .int (if n.negative then -magnitude else magnitude)
  | part, power =>
    let places := part.getD []
    .float (Binary64.ofDecimal n.negative (digitsValue (n.whole ++ places))
      (power.getD 0 - places.length))

/-- The count of digits of an integer; a float has no limit. -/
def Number.integerDigits (n : Number) : Nat :=
  match n.fraction, n.exponent with
  | none, none => n.whole.length
  | _, _ => 0

/-! ## Strings -/

/-- Where the reader stands inside a string. -/
inductive StringState
  | plain
  /-- Behind the backslash at the given position. -/
  | escape (backslash : Nat)
  /-- Inside the four digits behind the `u` at the given position. -/
  | digits (letter owed value : Nat)

/-- The characters that a backslash and a letter stand for. -/
def simpleEscape? (c : CodePoint) : Option CodePoint :=
  if c = '"' then some '"'
  else if c = '\\' then some '\\'
  else if c = '/' then some '/'
  else if c = 'b' then some (.ofNat 8)
  else if c = 'f' then some (.ofNat 12)
  else if c = 'n' then some '\n'
  else if c = 'r' then some '\r'
  else if c = 't' then some '\t'
  else none

/-- A complaint and its position. -/
abbrev Refusal := Complaint × Nat

/-- The characters of a string, each marked if it was written by its number, and the rest. -/
abbrev Body := List (CodePoint × Bool) × Nat × Text

/-- One more character in front of a body. -/
def Body.push (c : CodePoint) (byNumber : Bool) (b : Body) : Body := ((c, byNumber) :: b.1, b.2)

/-- The rest of the string that was opened at `start`, from `position` on. -/
def body (start : Nat) : StringState → Nat → Text → Except Refusal Body
  | .plain, _, [] => .error (.unterminatedString, start)
  | .plain, position, c :: rest =>
    if c = '"' then .ok ([], position + 1, rest)
    else if c = '\\' then body start (.escape position) (position + 1) rest
    else if c.val < 0x20 then .error (.controlCharacter, position)
    else (body start .plain (position + 1) rest).map (Body.push c false)
  | .escape _, _, [] => .error (.unterminatedString, start)
  | .escape backslash, position, c :: rest =>
    if c = 'u' then body start (.digits position 4 0) (position + 1) rest
    else
      match simpleEscape? c with
      | some e => (body start .plain (position + 1) rest).map (Body.push e false)
      | none => .error (.escape, backslash)
  | .digits letter _ _, _, [] => .error (.unicodeEscape, letter)
  | .digits letter owed value, position, c :: rest =>
    match c.hexDigit? with
    | none => .error (.unicodeEscape, letter)
    | some d =>
      let value := value * 16 + d
      if 1 < owed then body start (.digits letter (owed - 1) value) (position + 1) rest
      else if rest.isEmpty then .error (.unicodeEscape, letter)
      else (body start .plain (position + 1) rest).map (Body.push (.ofNat value) true)

/-- A high surrogate and a low one, both written by number, are one code point. -/
def joinPairs : List (CodePoint × Bool) → Text
  | [] => []
  | [c] => [c.1]
  | high :: low :: rest =>
    if high.2 && low.2 && 0xD800 ≤ high.1.val && high.1.val < 0xDC00 && 0xDC00 ≤ low.1.val &&
        low.1.val < 0xE000 then
      .ofNat (0x10000 + (high.1.val - 0xD800) * 0x400 + (low.1.val - 0xDC00)) :: joinPairs rest
    else high.1 :: joinPairs (low :: rest)

end Token

/-! ## The token list -/

/-- A token without its position. -/
inductive Symbol
  | openArray | closeArray | openObject | closeObject | colon | comma
  /-- A number or one of the words. -/
  | scalar (value : Json)
  | string (value : Text)
  /-- No token starts here. -/
  | broken (complaint : Complaint) (position : Nat)
  /-- An integer of too many digits. -/
  | tooLong (count : Nat)
  /-- The end of the text. -/
  | finish

/-- A symbol and where it starts. -/
structure Token where
  start : Nat
  symbol : Symbol

namespace Token

/-- The words and the values that they stand for. -/
def words : List (Text × Json) :=
  [(Text.ofString "null", .null), (Text.ofString "true", .bool true),
    (Text.ofString "false", .bool false), (Text.ofString "NaN", .float .nan),
    (Text.ofString "Infinity", .float (.infinity false)),
    (Text.ofString "-Infinity", .float (.infinity true))]

/-- The marks and their symbols. -/
def mark? (c : CodePoint) : Option Symbol :=
  if c = '[' then some .openArray
  else if c = ']' then some .closeArray
  else if c = '\x7b' then some .openObject
  else if c = '\x7d' then some .closeObject
  else if c = ':' then some .colon
  else if c = ',' then some .comma
  else none

/-- White space between tokens. -/
def isSpace (c : CodePoint) : Bool := c = ' ' ∨ c = '\t' ∨ c = '\n' ∨ c = '\r'

/-- The symbol of a number. -/
def Number.symbol (maxDigits : Option Nat) (n : Number) : Symbol :=
  match maxDigits with
  | some limit =>
    if limit < n.integerDigits then .tooLong n.integerDigits else .scalar n.value
  | none => .scalar n.value

/--
The symbol at the start of a text that does not start with white space, and, unless the tokens end
here, the rest with its position.
-/
def symbolAt (maxDigits : Option Nat) (position : Nat) (t : Text) :
    Symbol × Option (Nat × Text) :=
  match t with
  | [] => (.finish, none)
  | c :: rest =>
    match mark? c with
    | some symbol => (symbol, some (position + 1, rest))
    | none =>
      if c = '"' then
        match body position .plain (position + 1) rest with
        | .ok (characters, after, remaining) =>
          (.string (joinPairs characters), some (after, remaining))
        | .error (complaint, place) => (.broken complaint place, none)
      else
        match words.find? fun w => Text.startsWith t w.1 with
        | some (word, value) =>
          (.scalar value, some (position + word.length, t.drop word.length))
        | none =>
          match number? t with
          | some (n, remaining) =>
            (n.symbol maxDigits, some (position + (t.length - remaining.length), remaining))
          | none => (.broken .value position, none)

/-- The tokens of a text, at most as many as `fuel` says. -/
def listFrom (maxDigits : Option Nat) : Nat → Nat → Text → List Token
  | 0, _, _ => []
  | fuel + 1, position, t =>
    let start := position + (t.takeWhile isSpace).length
    let (symbol, next) := symbolAt maxDigits start (t.dropWhile isSpace)
    ⟨start, symbol⟩ ::
      match next with
      | some (after, remaining) => listFrom maxDigits fuel after remaining
      | none => []

/-- The tokens of a text. Each takes at least one character, and the end is one more. -/
def list (maxDigits : Option Nat) (t : Text) : List Token :=
  listFrom maxDigits (t.length + 1) 0 t

end Token

end Json

end BucketMap
