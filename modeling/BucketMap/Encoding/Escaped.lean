import BucketMap.Encoding.Utf8

/-!
# Text of the operating system

What the operating system hands over and takes is bytes without a null byte. They are read as
UTF-8; a byte that belongs to no encoded scalar value is kept as the surrogate `U+DC00` plus the
byte, one of U+DC80 to U+DCFF, which stands for this byte alone.

* `Escaped.decode` reads bytes and never fails.
* `Escaped.encode` gives the bytes of a text: surrogates of that range as the bytes that they stand
  for. A text with other surrogates or with a null character has none.
-/

namespace BucketMap

namespace Escaped

/-! ## Encoding -/

/-- Why a text cannot be handed to the operating system. -/
inductive Fault
  | unencodable (run : Utf8.SurrogateRun)
  | nullCharacter

/-- The text of a refusal. -/
def Fault.text : Fault → Text
  | unencodable run => run.text
  | nullCharacter => Text.ofString "embedded null byte"

/-- A surrogate that stands for a byte. -/
def isByte (c : CodePoint) : Bool := 0xDC80 ≤ c.val && c.val ≤ 0xDCFF

/-- The bytes of a code point. -/
def bytesOf (c : CodePoint) : Bytes :=
  if isByte c then [Utf8.byte (c.val - 0xDC00)] else Utf8.bytesOf c

/-- The first run of surrogates that cannot be encoded, from a position on. -/
def surrogateRun? : Nat → Text → Option Utf8.SurrogateRun
  | _, [] => none
  | position, c :: rest =>
    if c.isSurrogate && !isByte c then
      some ⟨c, position, 1 + (rest.takeWhile CodePoint.isSurrogate).length⟩
    else surrogateRun? (position + 1) rest

/-- The bytes of a text. -/
def encode (t : Text) : Except Fault Bytes :=
  match surrogateRun? 0 t with
  | some run => .error (.unencodable run)
  | none => if CodePoint.ofNat 0 ∈ t then .error .nullCharacter else .ok (t.flatMap bytesOf)

/-! ## Decoding -/

/-- The surrogate that stands for a byte. -/
def escape (b : UInt8) : CodePoint := CodePoint.ofNat (0xDC00 + b.toNat)

/-- The bytes of a code point that is not complete, with what they leave open. -/
abbrev State := Option (Utf8.Pending × Bytes)

/-- The bytes that are left over stand for themselves. -/
def flush : State → Text
  | none => []
  | some (_, held) => held.map escape

/-- A byte where a code point may start. -/
def start (b : UInt8) : Text × State :=
  if b.toNat < 0x80 then ([CodePoint.ofNat b.toNat], none)
  else
    match Utf8.lead? b 0 with
    | some p => ([], some (p, [b]))
    | none => ([escape b], none)

/-- The code point whose last byte has been read; the bytes of a surrogate stand for themselves. -/
def complete (bits : Nat) (held : Bytes) : Text :=
  if (CodePoint.ofNat bits).isSurrogate then held.map escape else [CodePoint.ofNat bits]

/-- A byte: what is known of the text from it on, and what is still open. -/
def step (state : State) (b : UInt8) : Text × State :=
  match state with
  | none => start b
  | some (p, held) =>
    if p.low ≤ b.toNat && b.toNat ≤ p.high then
      let bits := p.bits * 0x40 + (b.toNat - 0x80)
      if p.owed = 1 then (complete bits (held ++ [b]), none)
      else ([], some (⟨p.first, p.start, p.owed - 1, 0x80, 0xBF, bits⟩, held ++ [b]))
    else (held.map escape ++ (start b).1, (start b).2)

/-- The text of the bytes behind those that led to a state. -/
def decodeFrom (state : State) : Bytes → Text
  | [] => flush state
  | b :: rest => (step state b).1 ++ decodeFrom (step state b).2 rest

/-- The text of bytes. -/
def decode (bytes : Bytes) : Text := decodeFrom none bytes

end Escaped

end BucketMap
