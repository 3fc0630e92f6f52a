import BucketMap.Text.Digit
import BucketMap.Text.Printable

/-!
# Quoted text

`Text.quoted` writes a text between quotation marks on one line: single marks unless the text
holds a single mark and no double one. The mark in use and the backslash are written after a
backslash, tab, line feed and carriage return by their letters, and every other character that is
not printable by its hexadecimal number.
-/

namespace BucketMap

/-- The given number of hexadecimal digits. -/
def hexDigits : Nat → Nat → Text
  | 0, _ => []
  | width + 1, n => hexDigits width (n / 16) ++ [CodePoint.ofHexDigit (n % 16)]

/-- One character of a text between the given marks. -/
def CodePoint.quotedIn (mark c : CodePoint) : Text :=
  let backslash : CodePoint := '\\'
  if c = mark || c = backslash then [backslash, c]
  else if c = '\t' then [backslash, 't']
  else if c = '\n' then [backslash, 'n']
  else if c = '\r' then [backslash, 'r']
  else if c.isPrintable then [c]
  else if c.val < 0x100 then [backslash, 'x'] ++ hexDigits 2 c.val
  else if c.val < 0x10000 then [backslash, 'u'] ++ hexDigits 4 c.val
  else [backslash, 'U'] ++ hexDigits 8 c.val

namespace Text

/-- The mark around a quoted text. -/
def quoteMark (t : Text) : CodePoint :=
  if CodePoint.ofChar '\'' ∈ t ∧ CodePoint.ofChar '"' ∉ t then '"' else '\''

/-- The text between quotation marks. -/
def quoted (t : Text) : Text :=
  let mark := quoteMark t
  [mark] ++ t.flatMap (CodePoint.quotedIn mark) ++ [mark]

end Text

end BucketMap
