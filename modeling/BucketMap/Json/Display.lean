import BucketMap.Binary64.Shortest
import BucketMap.Json

/-!
# Values in messages

How a JSON value is shown in a message: arrays and objects in brackets with their members in
order, texts inside them quoted, numbers in their shortest form. `Json.shown` is the value between
quotation marks if it is a text, `Json.display` leaves a bare text as it is. An integer that is too
long to be written makes both fail.
-/

namespace BucketMap

namespace Json

/-- The members with `, ` between each two. -/
def commas (members : List Text) : Text := Text.join (Text.ofString ", ") members

mutual

/-- The value as it is shown inside others. -/
def shown : Json → Except NumeralTooLong Text
  | null => .ok (Text.ofString "None")
  | bool true => .ok (Text.ofString "True")
  | bool false => .ok (Text.ofString "False")
  | int n => Numeral.write n
  | float x => .ok x.text
  | str t => .ok t.quoted
  | arr items => do
    let members ← shownItems items
    return Text.ofString "[" ++ commas members ++ Text.ofString "]"
  | obj fields => do
    let members ← shownFields fields
    return Text.ofString "\x7b" ++ commas members ++ Text.ofString "\x7d"

/-- The members of an array. -/
def shownItems : List Json → Except NumeralTooLong (List Text)
  | [] => .ok []
  | item :: items => do
    let first ← shown item
    let others ← shownItems items
    return first :: others

/-- The members of an object. -/
def shownFields : List (Text × Json) → Except NumeralTooLong (List Text)
  | [] => .ok []
  | (key, value) :: fields => do
    let first ← shown value
    let others ← shownFields fields
    return (key.quoted ++ Text.ofString ": " ++ first) :: others

end

/-- The value as it is shown on its own. -/
def display : Json → Except NumeralTooLong Text
  | str t => .ok t
  | value => shown value

end Json

end BucketMap
