import BucketMap.Document
import BucketMap.Document.Field

/-!
# The server map of a document

* `readRows` reads a partition map, row by row.
* `Layout.read` reads the server map. A fast-forward map without rows counts as none, and the
  bucket is being rebalanced exactly if there is one.
-/

namespace BucketMap

/-- The partition of the row with the given number. -/
def readRow (map : String) (number : Nat) : Json → Except Failure Partition
  | .arr [] => refuse (.emptyRow (Text.ofString map) number)
  | .arr items =>
    match Partition.integers items with
    | .ok ordinals => Partition.ofIntegers ordinals
    | .error .infinite => .error (.integer .infinite)
    | .error _ => refuse (.rowOrdinals (Text.ofString map) number (.arr items))
  | _ => refuse (.emptyRow (Text.ofString map) number)

/-- The partitions of the rows from the one with the given number on. -/
def readRows (map : String) : Nat → List Json → Except Failure (List Partition)
  | _, [] => .ok []
  | number, row :: rows => do
    return (← readRow map number row) :: (← readRows map (number + 1) rows)

/-- The fast-forward map, if the field has rows. -/
def readForward : Option (List Json) → Except Failure (Option (List Partition))
  | none => .ok none
  | some [] => .ok none
  | some rows => do return some (← readRows "vBucketMapForward" 0 rows)

/-- The partition maps of a server map. -/
def Layout.read (fields : Fields) : Except Failure Layout := do
  let hosts ← fields.array "serverList"
  let rows ← fields.array "vBucketMap"
  let partitions ← readRows "vBucketMap" 0 rows
  let forwardRows ← fields.array? "vBucketMapForward"
  let forward ← readForward forwardRows
  let replicaCount ← fields.integer "numReplicas"
  let descriptors ← Fields.displayAll hosts
  return ⟨replicaCount, descriptors.map .str, partitions, forward, forward.isSome⟩

end BucketMap
