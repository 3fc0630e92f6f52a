import BucketMap.Encoding.Fault

/-!
# UTF-16 and UTF-32

Both forms write code units of a fixed width in one of two byte orders.

* `Utf16.decode` joins a high surrogate with a low one behind it and lets all other surrogates
  through; `Utf32.decode` refuses numbers that are no code points.
* Bytes left over at the end are refused by both.
-/

namespace BucketMap

namespace Encoding

/-- The bytes of a number, the highest one first. -/
def bigEndian : Nat → Nat → Bytes
  | 0, _ => []
  | width + 1, n => bigEndian width (n / 256) ++ [UInt8.ofNat n]

/-- The bytes of a number in the given order. -/
def unitBytes (order : ByteOrder) (width n : Nat) : Bytes :=
  match order with
  | .big => bigEndian width n
  | .little => (bigEndian width n).reverse

/-- The number with the given bytes. -/
def unitValue (order : ByteOrder) (bytes : Bytes) : Nat :=
  let value (bs : Bytes) : Nat := bs.foldl (fun v b => v * 256 + b.toNat) 0
  match order with
  | .big => value bytes
  | .little => value bytes.reverse

end Encoding

open Encoding

namespace Utf16

/-- The code units of a code point. -/
def unitsOf (c : CodePoint) : List Nat :=
  if c.val < 0x10000 then [c.val]
  else [0xD800 + (c.val - 0x10000) / 0x400, 0xDC00 + (c.val - 0x10000) % 0x400]

/-- The code points of code units. -/
def join : List Nat → Text
  | [] => []
  | [unit] => [CodePoint.ofNat unit]
  | high :: low :: rest =>
    if 0xD800 ≤ high && high < 0xDC00 && 0xDC00 ≤ low && low < 0xE000 then
      CodePoint.ofNat (0x10000 + (high - 0xD800) * 0x400 + (low - 0xDC00)) :: join rest
    else CodePoint.ofNat high :: join (low :: rest)

/-- The code units of bytes from `position` on. -/
def units (order : ByteOrder) : Nat → Bytes → Except Fault (List Nat)
  | _, [] => .ok []
  | position, [b] => .error ⟨.utf16 order, b, position, position + 1, .truncated⟩
  | position, a :: b :: rest => do
    return unitValue order [a, b] :: (← units order (position + 2) rest)

/-- The bytes of a text. -/
def encode (order : ByteOrder) (t : Text) : Bytes :=
  (t.flatMap unitsOf).flatMap (unitBytes order 2)

/-- The text of the bytes from `position` on. -/
def decode (order : ByteOrder) (position : Nat) (bytes : Bytes) : Except Fault Text := do
  return join (← units order position bytes)

end Utf16

namespace Utf32

/-- The bytes of a text. -/
def encode (order : ByteOrder) (t : Text) : Bytes := t.flatMap fun c => unitBytes order 4 c.val

/-- The text of the bytes from `position` on. -/
def decode (order : ByteOrder) : Nat → Bytes → Except Fault Text
  | _, [] => .ok []
  | position, a :: b :: c :: d :: rest =>
    let n := unitValue order [a, b, c, d]
    if h : n < 0x110000 then do
      return ⟨n, h⟩ :: (← decode order (position + 4) rest)
    else .error ⟨.utf32 order, a, position, position + 4, .outOfRange⟩
  | position, a :: rest =>
    .error ⟨.utf32 order, a, position, position + 1 + rest.length, .truncated⟩

end Utf32

end BucketMap
