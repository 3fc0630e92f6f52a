import BucketMap.Numeral

/-!
# Bytes that no text is encoded by

Why bytes are refused, and the text of the refusal: the encoding's name, the first byte if it
alone is at fault, its position or the first and last position, and the reason.
-/

namespace BucketMap

/-- A sequence of bytes. -/
abbrev Bytes := List UInt8

/-- The order of the bytes of a code unit. -/
inductive ByteOrder
  | little | big
deriving DecidableEq

/-- The encoding forms of text. -/
inductive Encoding
  | utf8
  | utf16 (order : ByteOrder)
  | utf32 (order : ByteOrder)
deriving DecidableEq

namespace Encoding

/-- The name of an encoding form. -/
def name : Encoding → String
  | utf8 => "utf-8"
  | utf16 .little => "utf-16-le"
  | utf16 .big => "utf-16-be"
  | utf32 .little => "utf-32-le"
  | utf32 .big => "utf-32-be"

/-- Why bytes are refused. -/
inductive Reason
  | invalidStart | invalidContinuation | unexpectedEnd | truncated | outOfRange

/-- The words for a reason. -/
def Reason.text : Reason → String
  | invalidStart => "invalid start byte"
  | invalidContinuation => "invalid continuation byte"
  | unexpectedEnd => "unexpected end of data"
  | truncated => "truncated data"
  | outOfRange => "code point not in range(0x110000)"

/-- The bytes from position `start` up to, not including, `stop` are at fault. -/
structure Fault where
  encoding : Encoding
  first : UInt8
  start : Nat
  stop : Nat
  reason : Reason

/-- The text of a refusal. -/
def Fault.text (f : Fault) : Text :=
  let lit := Text.ofString
  let place : Text :=
    if f.stop = f.start + 1 then
      lit "byte 0x" ++ hexDigits 2 f.first.toNat ++ lit " in position " ++
        Numeral.natural f.start
    else
      lit "bytes in position " ++ Numeral.natural f.start ++ lit "-" ++
        Numeral.natural (f.stop - 1)
  lit "'" ++ lit f.encoding.name ++ lit "' codec can't decode " ++ place ++ lit ": " ++
    lit f.reason.text

end Encoding

end BucketMap
