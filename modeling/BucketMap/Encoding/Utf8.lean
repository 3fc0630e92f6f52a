import BucketMap.Encoding.Fault

/-!
# UTF-8

* `Utf8.bytesOf` are the one to four bytes of a code point, surrogates included.
* `Utf8.encode` encodes a text and refuses surrogates, naming the first run of them.
* `Utf8.decode` reads bytes and lets encoded surrogates through. It goes byte by byte; inside a
  code point it knows how many bytes are owed and which the next one may be.
-/

namespace BucketMap

namespace Utf8

/-! ## Encoding -/

/-- The byte with the given value. -/
def byte (n : Nat) : UInt8 := UInt8.ofNat n

/-- The bytes of a code point. -/
def bytesOf (c : CodePoint) : Bytes :=
  let n := c.val
  if n < 0x80 then [byte n]
  else if n < 0x800 then [byte (0xC0 + n / 0x40), byte (0x80 + n % 0x40)]
  else if n < 0x10000 then
    [byte (0xE0 + n / 0x1000), byte (0x80 + n / 0x40 % 0x40), byte (0x80 + n % 0x40)]
  else
    [byte (0xF0 + n / 0x40000), byte (0x80 + n / 0x1000 % 0x40), byte (0x80 + n / 0x40 % 0x40),
      byte (0x80 + n % 0x40)]

/-- Surrogates that cannot be encoded: the first one, its position and the length of the run. -/
structure SurrogateRun where
  first : CodePoint
  start : Nat
  length : Nat

/-- The first run of surrogates of a text. -/
def surrogateRun? (t : Text) : Option SurrogateRun :=
  let before := t.takeWhile fun c => !c.isSurrogate
  match t.drop before.length with
  | [] => none
  | c :: rest => some ⟨c, before.length, 1 + (rest.takeWhile CodePoint.isSurrogate).length⟩

/-- The bytes of a text without surrogates. -/
def encode (t : Text) : Except SurrogateRun Bytes :=
  match surrogateRun? t with
  | some run => .error run
  | none => .ok (t.flatMap bytesOf)

/-- The text of a refusal. -/
def SurrogateRun.text (run : SurrogateRun) : Text :=
  let lit := Text.ofString
  let place : Text :=
    if run.length = 1 then
      lit "character '\\u" ++ hexDigits 4 run.first.val ++ lit "' in position " ++
        Numeral.natural run.start
    else
      lit "characters in position " ++ Numeral.natural run.start ++ lit "-" ++
        Numeral.natural (run.start + run.length - 1)
  lit "'utf-8' codec can't encode " ++ place ++ lit ": surrogates not allowed"

/-! ## Decoding -/

/-- What the bytes of a code point read so far leave open. -/
structure Pending where
  /-- The first byte. -/
  first : UInt8
  /-- Its position. -/
  start : Nat
  /-- The number of bytes owed. -/
  owed : Nat
  /-- The least value of the next byte. -/
  low : Nat
  /-- The greatest value of the next byte. -/
  high : Nat
  /-- The value of the bits read so far. -/
  bits : Nat

/-- The state after the first byte of a code point that is longer than one byte. -/
def lead? (b : UInt8) (position : Nat) : Option Pending :=
  let n := b.toNat
  if 0xC2 ≤ n && n ≤ 0xDF then some ⟨b, position, 1, 0x80, 0xBF, n - 0xC0⟩
  else if n = 0xE0 then some ⟨b, position, 2, 0xA0, 0xBF, 0⟩
  else if 0xE1 ≤ n && n ≤ 0xEF then some ⟨b, position, 2, 0x80, 0xBF, n - 0xE0⟩
  else if n = 0xF0 then some ⟨b, position, 3, 0x90, 0xBF, 0⟩
  else if 0xF1 ≤ n && n ≤ 0xF3 then some ⟨b, position, 3, 0x80, 0xBF, n - 0xF0⟩
  else if n = 0xF4 then some ⟨b, position, 3, 0x80, 0x8F, 4⟩
  else none

/-- The bytes read so far start a surrogate. -/
def Pending.isSurrogate (p : Pending) : Bool := p.first = 0xED && p.owed = 1 && 0x360 ≤ p.bits

/-- The refusal of the bytes up to `stop`; of a surrogate, only its first byte is at fault. -/
def Pending.fault (p : Pending) (stop : Nat) (reason : Encoding.Reason) : Encoding.Fault :=
  if p.isSurrogate then ⟨.utf8, p.first, p.start, p.start + 1, .invalidContinuation⟩
  else ⟨.utf8, p.first, p.start, stop, reason⟩

/-- The text of the bytes from `position` on. -/
def decodeFrom : Option Pending → Nat → Bytes → Except Encoding.Fault Text
  | none, _, [] => .ok []
  | some p, position, [] => .error (p.fault position .unexpectedEnd)
  | none, position, b :: rest =>
    if b.toNat < 0x80 then do
      return CodePoint.ofNat b.toNat :: (← decodeFrom none (position + 1) rest)
    else
      match lead? b position with
      | some p => decodeFrom (some p) (position + 1) rest
      | none => .error ⟨.utf8, b, position, position + 1, .invalidStart⟩
  | some p, position, b :: rest =>
    if p.low ≤ b.toNat && b.toNat ≤ p.high then
      let bits := p.bits * 0x40 + (b.toNat - 0x80)
      if p.owed = 1 then do
        return CodePoint.ofNat bits :: (← decodeFrom none (position + 1) rest)
      else
        decodeFrom (some ⟨p.first, p.start, p.owed - 1, 0x80, 0xBF, bits⟩) (position + 1) rest
    else .error (p.fault position .invalidContinuation)

/-- The text that the bytes encode. -/
def decode (bytes : Bytes) : Except Encoding.Fault Text := decodeFrom none 0 bytes

end Utf8

end BucketMap
