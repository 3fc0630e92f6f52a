import BucketMap.Config
import BucketMap.Routing.Hash

/-!
# Routing

* A `Holder` holds the config that is in use. `Holder.propose` puts a config to use only if its
  revision is greater than that of the one in use; it gives the holder after that, and the report.
* `Holder.locate` is the node that owns a key under the config in use: the master for replica
  zero, the n-th replica for n. There is none if no config is in use, if the config has no
  partitions, or if nobody owns that position.
-/

namespace BucketMap

/-- The config that is in use, if there is one. -/
structure Holder where
  current : Option BucketConfig

namespace Holder

/-- The report on a bucket in the middle of a rebalance. -/
def reportRebalance (c : BucketConfig) : Run Unit :=
  if c.tainted then Run.emit .router .info ["Bucket ", c.name, " is rebalancing"] else .ok ()

/-- The report on a config that was put to use. -/
def reportInstalled (c : BucketConfig) : Run Bool := do
  Run.emit .router .info ["Installed config rev ", c.rev, " for bucket ", c.name]
  reportRebalance c
  return true

/-- The report on a config that is not newer than the one in use. -/
def reportIgnored (c current : BucketConfig) : Run Bool := do
  Run.emit .router .debug ["Ignoring config rev ", c.rev, " for bucket ", c.name,
    ", current rev is ", current.rev]
  return false

/--
Put a config to use if it is newer than the one in use, and say whether it is. A config is in use
before that is reported, so that it stays in use if the report fails.
-/
def propose (h : Holder) (c : BucketConfig) : Holder × Run Bool :=
  match h.current with
  | none => (⟨some c⟩, reportInstalled c)
  | some current =>
    if c.rev ≤ current.rev then (h, reportIgnored c current) else (⟨some c⟩, reportInstalled c)

/-- The ordinal of the owner of a partition: of the master for zero, of the n-th replica for n. -/
def ownerOrdinal (c : BucketConfig) (partition replica : Int) (forward : Bool) : Run Int :=
  if replica = 0 then c.masterOrdinal partition forward
  else c.replicaOrdinal partition (replica - 1) forward

/-- The partition host of an owner's ordinal, or none if there is no owner. -/
def ownerAt (c : BucketConfig) (partition : Nat) (replica ordinal : Int) : Run (Option Node) :=
  if ordinal < 0 then do
    Run.emit .router .debug ["No owner for partition ", partition, " (replica ", replica,
      "), got ", ordinal]
    return none
  else do
    let node ← Run.ofExcept (c.nodeAt ordinal)
    return some node

/-- The node that owns a key under the given config. -/
def locateIn (c : BucketConfig) (key : Key) (replica : Int) (forward : Bool) :
    Run (Option Node) :=
  if c.partitionCount = 0 then .ok none
  else do
    let partition ← Run.ofExcept (key.partition c.partitionCount)
    let ordinal ← ownerOrdinal c partition replica forward
    ownerAt c partition replica ordinal

/-- The node that owns a key under the config in use. -/
def locate (h : Holder) (key : Key) (replica : Int) (forward : Bool) : Run (Option Node) :=
  match h.current with
  | none => .ok none
  | some c => locateIn c key replica forward

end Holder

end BucketMap
