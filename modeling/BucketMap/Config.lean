import BucketMap.Document

/-!
# Bucket configs

A config answers which node owns a partition or one of its replicas, under the current map and
under the fast-forward map of a rebalance.

* `BucketConfig.masterOrdinal` and `BucketConfig.replicaOrdinal` give an ordinal, `noOwner` (-1)
  for a position that nobody owns, or `notExistent` (-2) for a position outside the map. Asking
  for a fast-forward map that the config lacks fails.
* `BucketConfig.nodeAt` is the partition host of an ordinal.
* `BucketConfig.isPrimary` says whether a node owns the master of some partition.
-/

namespace BucketMap

/-- The answer for a position outside the map. -/
def notExistent : Int := -2

/-- The kinds of buckets, with the numbers that stand for them. -/
inductive BucketType
  | couchbase | memcached

/-- The name of a kind and its number. -/
def BucketType.label : BucketType → Text × Int
  | couchbase => (Text.ofString "COUCHBASE", 1)
  | memcached => (Text.ofString "MEMCACHED", 2)

/-- The ways to find the node of a key, with the numbers that stand for them. -/
inductive Locator
  /-- Through the partition map. -/
  | vbucket
  /-- Through a ring of hashes. -/
  | ketama

/-- The name of a way and its number. -/
def Locator.label : Locator → Text × Int
  | vbucket => (Text.ofString "VBUCKET", 1)
  | ketama => (Text.ofString "KETAMA", 2)

/-- The config of a partitioned bucket. -/
structure BucketConfig where
  rev : Int
  name : Text
  uri : Option Text
  streamingUri : Option Text
  nodes : List Node
  layout : Layout
  /-- The partition hosts, one for each descriptor. -/
  hosts : List Node
  /-- The addresses of the nodes that own a master, each once. -/
  primaries : List Text
  /-- The bucket keeps its data in memory only. -/
  ephemeral : Bool

namespace BucketConfig

/-- The kind of bucket. -/
def bucketType (_ : BucketConfig) : BucketType := .couchbase

/-- The way to find the node of a key. -/
def locator (_ : BucketConfig) : Locator := .vbucket

/-- A rebalance of the bucket is going on. -/
def tainted (c : BucketConfig) : Bool := c.layout.tainted

/-- The number of partitions of the current map. -/
def partitionCount (c : BucketConfig) : Nat := c.layout.partitions.length

/-- The number of replicas configured for the bucket. -/
def replicaCount (c : BucketConfig) : Int := c.layout.replicaCount

/-- The config has a fast-forward map. -/
def hasForward (c : BucketConfig) : Bool := c.layout.hasForward

/-- The node at a host owns the master of some partition. A host without normal form owns none. -/
def isPrimary (c : BucketConfig) (host : Text) : Bool :=
  match Address.normalize host with
  | .ok address => address ∈ c.primaries
  | .error _ => false

/-- The element at a position, for positions from zero on. -/
def elementAt? {α : Type} (xs : List α) (position : Int) : Option α :=
  if 0 ≤ position then xs[position.toNat]? else none

/-- The map to look a partition up in. -/
def map (c : BucketConfig) (forward : Bool) : Except Failure (List Partition) :=
  if forward then
    match c.layout.forward with
    | some partitions => .ok partitions
    | none => .error .noForwardMap
  else .ok c.layout.partitions

theorem map_false (c : BucketConfig) : c.map false = .ok c.layout.partitions := rfl

theorem map_true_of_forward {c : BucketConfig} {partitions : List Partition}
    (h : c.layout.forward = some partitions) : c.map true = .ok partitions := by
  unfold map
  rw [if_pos rfl, h]

theorem map_true_of_none {c : BucketConfig} (h : c.layout.forward = none) :
    c.map true = .error .noForwardMap := by
  unfold map
  rw [if_pos rfl, h]

/-- The ordinal of the master of a partition. -/
def masterOrdinal (c : BucketConfig) (partition : Int) (forward : Bool) : Run Int := do
  let partitions ← Run.ofExcept (c.map forward)
  match elementAt? partitions partition with
  | some p => return p.master
  | none =>
    Run.emit .bucket .debug ["Out of bounds on index for master ", partition]
    return notExistent

/-- The ordinal of a replica of a partition; the first replica has the number zero. -/
def replicaOrdinal (c : BucketConfig) (partition replica : Int) (forward : Bool) : Run Int := do
  let partitions ← Run.ofExcept (c.map forward)
  match (elementAt? partitions partition).bind fun p => elementAt? p.replicas replica with
  | some ordinal => return ordinal
  | none =>
    Run.emit .bucket .debug
      ["Out of bounds on index for replica ", replica, " of partition ", partition]
    return notExistent

/-- The partition host of an ordinal. -/
def nodeAt (c : BucketConfig) (ordinal : Int) : Except Failure Node :=
  match elementAt? c.hosts ordinal with
  | some node => .ok node
  | none => .error (Failure.nodeIndex ordinal c.hosts.length).sayable

/-- The words for a truth value. -/
def truth (b : Bool) : String := if b then "True" else "False"

/-- A config in a message. -/
def message (c : BucketConfig) : Message :=
  ["CouchbaseBucketConfig(name=", .quoted c.name, ", rev=", c.rev, ", partitions=",
    c.partitionCount, ", replicas=", c.replicaCount, ", tainted=", truth c.tainted,
    ", ephemeral=", truth c.ephemeral, ")"]

end BucketConfig

end BucketMap
