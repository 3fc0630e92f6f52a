import BucketMap.Encoding.Utf8
import BucketMap.Encoding.Units

/-!
# Text of unknown encoding

JSON may come in any of the five encoding forms, with or without a byte order mark.

* `Encoding.detect` tells them apart by a mark or else by the zeros among the first bytes, since
  the first two characters of a JSON text stand below 128.
* `Encoding.decodeAny` drops the mark and decodes. Positions count the mark except in UTF-8.
-/

namespace BucketMap

namespace Encoding

/-- The byte order mark of an encoding form. -/
def mark : Encoding → Bytes
  | utf8 => [0xEF, 0xBB, 0xBF]
  | utf16 .little => [0xFF, 0xFE]
  | utf16 .big => [0xFE, 0xFF]
  | utf32 .little => [0xFF, 0xFE, 0x00, 0x00]
  | utf32 .big => [0x00, 0x00, 0xFE, 0xFF]

/-- The forms in the order in which their marks are looked for: one mark starts another. -/
def marked : List Encoding :=
  [utf32 .big, utf32 .little, utf16 .big, utf16 .little, utf8]

/-- The form of bytes without a mark. -/
def detectUnmarked : Bytes → Encoding
  | [a, b] => if a = 0 then utf16 .big else if b = 0 then utf16 .little else utf8
  | a :: b :: c :: d :: _ =>
    if a = 0 then (if b = 0 then utf32 .big else utf16 .big)
    else if b = 0 then (if c = 0 && d = 0 then utf32 .little else utf16 .little)
    else utf8
  | _ => utf8

/-- The form of bytes, and whether they start with a mark. -/
def detect (bytes : Bytes) : Encoding × Bool :=
  match marked.find? fun e => e.mark.isPrefixOf bytes with
  | some e => (e, true)
  | none => (detectUnmarked bytes, false)

/-- The text of bytes in the given form, without a mark. -/
def decode (e : Encoding) (position : Nat) (bytes : Bytes) : Except Fault Text :=
  match e with
  | utf8 => Utf8.decode bytes
  | utf16 order => Utf16.decode order position bytes
  | utf32 order => Utf32.decode order position bytes

/-- The text of bytes in the form that they show. -/
def decodeAny (bytes : Bytes) : Except Fault Text :=
  let (e, isMarked) := detect bytes
  let skipped := if isMarked then e.mark.length else 0
  decode e skipped (bytes.drop skipped)

/-- The bytes of a text without surrogates in the given form. -/
def encode (e : Encoding) (t : Text) : Bytes :=
  match e with
  | utf8 => t.flatMap Utf8.bytesOf
  | utf16 order => Utf16.encode order t
  | utf32 order => Utf32.encode order t

end Encoding

end BucketMap
