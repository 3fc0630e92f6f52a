import BucketMap.Json

/-!
# Equality of JSON values

Numbers and truth values are equal when their numeric values are (`true` is one), texts when they
are the same, arrays member by member, and objects when they have the same keys with equal values,
in any order. A float that is no number equals itself alone.
-/

namespace BucketMap

namespace Json

/-- The integer that a truth value or an integer stands for. -/
def integer? : Json → Option Int
  | bool b => some (if b then 1 else 0)
  | int n => some n
  | _ => none

mutual

/-- The values are equal. -/
def same : Json → Json → Bool
  | null, null => true
  | str a, str b => a = b
  | arr a, arr b => sameItems a b
  | obj a, obj b => a.length = b.length && sameFields a b
  | float x, float y => x.same y
  | float x, other =>
    match other.integer? with
    | some n => x.sameAsInt n
    | none => false
  | bool a, float y => y.sameAsInt (if a then 1 else 0)
  | int a, float y => y.sameAsInt a
  | bool a, other => other.integer? = some (if a then 1 else 0)
  | int a, other => other.integer? = some a
  | _, _ => false

/-- The arrays are equal member by member. -/
def sameItems : List Json → List Json → Bool
  | [], [] => true
  | a :: as, b :: bs => same a b && sameItems as bs
  | _, _ => false

/-- Every field of the first list has an equal value in the second. -/
def sameFields : List (Text × Json) → List (Text × Json) → Bool
  | [], _ => true
  | (key, value) :: fields, others =>
    (match lookup key others with
      | some other => same value other
      | none => false) && sameFields fields others

end

end Json

end BucketMap
