import BucketMap.Binary64
import BucketMap.Text

/-!
# JSON values

A decoded JSON value. Numbers are integers of any size or binary floating-point numbers, the
latter with infinities and a value that is no number; an object keeps its fields in document
order, each key once.

* `Json.lookup` looks a field up and `Json.setField` writes one: a key that is written again keeps
  its place and takes the new value (`Json.lookup_setField`).
* `Json.isFalsy` are the values that stand for "nothing given": null, false, zero and all that is
  empty.
-/

namespace BucketMap

/-- A JSON value. -/
inductive Json
  | null
  | bool (value : Bool)
  | int (value : Int)
  | float (value : Binary64)
  | str (value : Text)
  | arr (items : List Json)
  | obj (fields : List (Text × Json))

namespace Json

/-- The kinds of JSON values, with two kinds of numbers. -/
inductive Kind
  | null | bool | int | float | str | arr | obj
deriving DecidableEq

/-- The kind of a value. -/
def kind : Json → Kind
  | null => .null
  | bool _ => .bool
  | int _ => .int
  | float _ => .float
  | str _ => .str
  | arr _ => .arr
  | obj _ => .obj

/-- The name of a kind in error texts. -/
def Kind.name : Kind → String
  | .null => "NoneType"
  | .bool => "bool"
  | .int => "int"
  | .float => "float"
  | .str => "str"
  | .arr => "list"
  | .obj => "dict"

/-- Null, false, a zero or something empty. -/
def isFalsy : Json → Bool
  | null => true
  | bool b => !b
  | int n => n = 0
  | float x => x.isZero
  | str t => t.isEmpty
  | arr items => items.isEmpty
  | obj fields => fields.isEmpty

/-! ## Fields -/

/-- The value of a key in a list of fields. -/
def lookup (key : Text) : List (Text × Json) → Option Json
  | [] => none
  | (k, v) :: fields => if k = key then some v else lookup key fields

/-- The fields with one more written: in its old place, or behind all others. -/
def setField (key : Text) (value : Json) : List (Text × Json) → List (Text × Json)
  | [] => [(key, value)]
  | (k, v) :: fields =>
    if k = key then (k, value) :: fields else (k, v) :: setField key value fields

theorem lookup_setField (key other : Text) (value : Json) (fields : List (Text × Json)) :
    lookup other (setField key value fields) =
      if key = other then some value else lookup other fields := by
  induction fields with
  | nil => simp [setField, lookup]
  | cons f fields ih =>
    obtain ⟨k, v⟩ := f
    by_cases hk : k = key
    · subst hk
      by_cases ho : k = other <;> simp [setField, lookup, ho]
    · by_cases ho : k = other
      · subst ho
        simp [setField, lookup, hk, Ne.symm hk]
      · simp [setField, lookup, hk, ho, ih]

end Json

end BucketMap
