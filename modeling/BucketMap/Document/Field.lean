import BucketMap.Run

/-!
# Fields of documents

A required field that is missing or null is refused as missing (`Fields.required`), an optional one
counts as absent (`Fields.optional`); a field of another kind is refused in both cases. A truth
value is no integer.
-/

namespace BucketMap

namespace Json

/-- The integer that a value is. A truth value is none. -/
def asInteger? : Json → Option Int
  | int n => some n
  | _ => none

/-- The text that a value is. -/
def asText? : Json → Option Text
  | str t => some t
  | _ => none

/-- The members of the array that a value is. -/
def asArray? : Json → Option (List Json)
  | arr items => some items
  | _ => none

/-- The fields of the object that a value is. -/
def asObject? : Json → Option (List (Text × Json))
  | obj fields => some fields
  | _ => none

end Json

/-- The fields of an object. -/
abbrev Fields := List (Text × Json)

namespace Fields

/-- The value of a field; null counts as none. -/
def given? (fields : Fields) (key : String) : Option Json :=
  match Json.lookup (Text.ofString key) fields with
  | some .null => none
  | value => value

/-- A required field, whose value is of one kind. -/
def required {α : Type} (fields : Fields) (key : String) (kind? : Json → Option α) :
    Except Failure α :=
  match fields.given? key with
  | none => refuse (.missing (Text.ofString key))
  | some value =>
    match kind? value with
    | some a => .ok a
    | none => refuse (.wrongKind (Text.ofString key) value.kind)

/-- An optional field, whose value is of one kind. -/
def optional {α : Type} (fields : Fields) (key : String) (kind? : Json → Option α) :
    Except Failure (Option α) :=
  match fields.given? key with
  | none => .ok none
  | some _ => (fields.required key kind?).map some

/-- A required integer. -/
def integer (fields : Fields) (key : String) : Except Failure Int :=
  fields.required key Json.asInteger?

/-- A required text. -/
def text (fields : Fields) (key : String) : Except Failure Text := fields.required key Json.asText?

/-- A required array. -/
def array (fields : Fields) (key : String) : Except Failure (List Json) :=
  fields.required key Json.asArray?

/-- A required object. -/
def object (fields : Fields) (key : String) : Except Failure Fields :=
  fields.required key Json.asObject?

/-- An optional text. -/
def text? (fields : Fields) (key : String) : Except Failure (Option Text) :=
  fields.optional key Json.asText?

/-- An optional array. -/
def array? (fields : Fields) (key : String) : Except Failure (Option (List Json)) :=
  fields.optional key Json.asArray?

/-- The texts of values. -/
def displayAll : List Json → Except Failure (List Text)
  | [] => .ok []
  | value :: values =>
    match value.display with
    | .error _ => .error .numeralTooLong
    | .ok t => do return t :: (← displayAll values)

end Fields

end BucketMap
