import BucketMap.Json.Equality
import BucketMap.Run

/-!
# Partition maps

A partition map is a sequence of partitions; the place of a partition in it is its number. A
partition names its master and its replicas by ordinals, their places in the list of partition
hosts. The ordinal -1 (`noOwner`) marks a position that nobody owns yet.

* `Json.toInt` is the integer that a JSON value stands for: floats lose their fraction, texts are
  read as numerals, and a truth value counts as zero or one.
* `Partition.ofRow` reads a row: the master's ordinal, then those of the replicas. For
  `Partition.ofText` the row is a text, with one character for each ordinal.
* `Layout` holds the maps of a bucket as its document lists them.
-/

namespace BucketMap

/-- The ordinal of a position without an owner. -/
def noOwner : Int := -1

/-- The integer that a text writes. -/
def integerOfText (t : Text) : Except IntegerFault Int :=
  match Numeral.read t with
  | .ok n => .ok n
  | .error fault => .error (.numeral fault)

/-- The integer part of a float. -/
def integerOfFloat (x : Binary64) : Except IntegerFault Int :=
  match x.truncate? with
  | some n => .ok n
  | none =>
    match x with
    | .infinity _ => .error .infinite
    | _ => .error .notANumber

/-- The integer that a value stands for. -/
def Json.toInt : Json → Except IntegerFault Int
  | .bool b => .ok (if b then 1 else 0)
  | .int n => .ok n
  | .float x => integerOfFloat x
  | .str t => integerOfText t
  | value => .error (.wrongKind value.kind)

/-- The owners of one partition. -/
structure Partition where
  master : Int
  replicas : List Int
deriving DecidableEq

namespace Partition

/-- The master and the replicas in one row. -/
def row (p : Partition) : List Int := p.master :: p.replicas

/-- The partition that a row of integers describes. -/
def ofIntegers : List Int → Except Failure Partition
  | [] => .error .emptyRow
  | master :: replicas => .ok ⟨master, replicas⟩

/-- The integers of a row. -/
def integers : List Json → Except IntegerFault (List Int)
  | [] => .ok []
  | value :: values => do return (← value.toInt) :: (← integers values)

/-- The partition that a row describes. -/
def ofRow (row : List Json) : Except Failure Partition :=
  match integers row with
  | .ok ns => ofIntegers ns
  | .error fault => .error (.integer fault)

/-- The partition that a text describes, whose characters are the members of a row. -/
def ofText : Text → Except Failure Partition
  | [] => .error .emptyText
  | t => ofRow (t.map fun c => .str [c])

end Partition

/-- The partition maps of a bucket, as its document lists them. -/
structure Layout where
  /-- The number of replicas configured for the bucket. -/
  replicaCount : Int
  /-- The descriptors of the partition hosts in order. -/
  descriptors : List Json
  /-- The current map. -/
  partitions : List Partition
  /-- The map towards which a rebalance moves. -/
  forward : Option (List Partition)
  /-- A rebalance of the bucket is going on. -/
  tainted : Bool

namespace Layout

/-- There is a map towards which a rebalance moves. -/
def hasForward (l : Layout) : Bool := l.forward.isSome

/-- Equality field by field, of descriptors as values. -/
def same (a b : Layout) : Bool :=
  a.replicaCount = b.replicaCount && Json.sameItems a.descriptors b.descriptors &&
    a.partitions = b.partitions && a.forward = b.forward && a.tainted = b.tainted

end Layout

end BucketMap
