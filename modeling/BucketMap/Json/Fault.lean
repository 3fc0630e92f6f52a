import BucketMap.Encoding.Fault
import BucketMap.Json

/-!
# Faults of JSON text

Why a text or bytes are refused as JSON. A complaint about the syntax names the line, the column
and the position, all in code points; lines end at line feeds.
-/

namespace BucketMap

namespace Json

/-- What is wrong with the syntax. -/
inductive Complaint
  | value | propertyName | colon | comma | extraData | unterminatedString | controlCharacter
  | escape | unicodeEscape | byteOrderMark

/-- The words for a complaint. -/
def Complaint.text : Complaint → String
  | value => "Expecting value"
  | propertyName => "Expecting property name enclosed in double quotes"
  | colon => "Expecting ':' delimiter"
  | comma => "Expecting ',' delimiter"
  | extraData => "Extra data"
  | unterminatedString => "Unterminated string starting at"
  | controlCharacter => "Invalid control character at"
  | escape => "Invalid \\escape"
  | unicodeEscape => "Invalid \\uXXXX escape"
  | byteOrderMark => "Unexpected UTF-8 BOM (decode using utf-8-sig)"

/-- A place in a text: its number and its line and column, both from one. -/
structure Place where
  position : Nat
  line : Nat
  column : Nat

/-- The place of a position. -/
def placeOf (t : Text) (position : Nat) : Place :=
  let before := t.take position
  let newline := CodePoint.ofChar '\n'
  ⟨position, before.count newline + 1, (Text.afterLast newline before).length + 1⟩

/-- Why a text is refused. -/
inductive Fault
  | syntaxFault (complaint : Complaint) (place : Place)
  /-- An integer of too many digits. -/
  | tooManyDigits (count : Nat)
  /-- An array or object inside too many others. -/
  | tooDeep (container : Kind)
  /-- Bytes that encode no text. -/
  | undecodable (fault : Encoding.Fault)

/-- The words for an integer of too many digits. -/
def digitLimitText (count : Nat) : Text :=
  Text.ofString "Exceeds the limit (4300 digits) for integer string conversion: value has " ++
    Numeral.natural count ++
    Text.ofString " digits; use sys.set_int_max_str_digits() to increase the limit"

/-- The words for an array or object inside too many others. -/
def tooDeepText (container : Kind) : Text :=
  Text.ofString "maximum recursion depth exceeded while decoding a JSON " ++
    Text.ofString (if container = .arr then "array" else "object") ++
    Text.ofString " from a unicode string"

/-- The text of a refusal. -/
def Fault.text : Fault → Text
  | syntaxFault complaint place =>
    let lit := Text.ofString
    lit complaint.text ++ lit ": line " ++ Numeral.natural place.line ++ lit " column " ++
      Numeral.natural place.column ++ lit " (char " ++ Numeral.natural place.position ++ lit ")"
  | tooManyDigits count => digitLimitText count
  | tooDeep container => tooDeepText container
  | undecodable fault => fault.text

end Json

end BucketMap
