import BucketMap.Config
import BucketMap.Descriptor

/-!
# Building a config

A config is built from a bucket document in four steps: the descriptors of the partition hosts are
resolved to nodes, each of which must be found exactly once; the nodes that own a master are
collected; and every ordinal of the current and of the fast-forward map is checked. The first
fault ends the build.

* `partitionHosts`, `primaryHosts` and `checkMap` are the steps, `BucketConfig.build` is the whole.
* All records go to the channel that the build is given, or to the builder's if it is given none.
-/

namespace BucketMap

/-- The nodes that the descriptors name, in the order of the descriptors. -/
def resolveAll (log : Channel) (nodes : List Node) : List Json → Run (List Node)
  | [] => .ok []
  | raw :: descriptors => do
    let found ← Descriptor.resolve (some log) raw nodes
    let others ← resolveAll log nodes descriptors
    return found ++ others

/-- The partition hosts: as many nodes as there are descriptors. -/
def partitionHosts (log : Option Channel) (nodes : List Node) (descriptors : List Json) :
    Run (List Node) := do
  let hosts ← resolveAll (log.getD .builder) nodes descriptors
  if hosts.length = descriptors.length then return hosts
  else Run.refuse (.hostCount descriptors.length hosts.length)

/-- The addresses without repetitions, each at its first place. -/
def distinct : List Text → List Text
  | [] => []
  | t :: rest => t :: (distinct rest).filter (· ≠ t)

/-- The addresses of the masters' nodes from the partition with the given number on. -/
def masterHosts (nodes : List Node) : Nat → List Partition → Except Failure (List Text)
  | _, [] => .ok []
  | number, p :: partitions =>
    if p.master < 0 then masterHosts nodes (number + 1) partitions
    else
      match nodes[p.master.toNat]? with
      | none => refuse (.masterOutside p.master number nodes.length)
      | some node => do return node.hostname :: (← masterHosts nodes (number + 1) partitions)

/-- The addresses of the nodes that own a master, looked up in the node list. -/
def primaryHosts (nodes : List Node) (partitions : List Partition) : Except Failure (List Text) :=
  (masterHosts nodes 0 partitions).map distinct

/-- An ordinal is the place of a partition host or marks a missing owner. -/
def checkOrdinal (hosts : Int) (map : Text) (partition : Nat) (ordinal : Int) :
    Except Failure Unit :=
  if ordinal < noOwner then refuse (.ordinalBelow partition map ordinal)
  else if hosts ≤ ordinal then refuse (.ordinalBeyond partition map ordinal hosts)
  else .ok ()

/-- All ordinals of a row are good. -/
def checkRow (hosts : Int) (map : Text) (partition : Nat) : List Int → Except Failure Unit
  | [] => .ok ()
  | ordinal :: ordinals => do
    checkOrdinal hosts map partition ordinal
    checkRow hosts map partition ordinals

/-- All ordinals of a map are good, from the partition with the given number on. -/
def checkMapFrom (hosts : Int) (map : Text) : Nat → List Partition → Except Failure Unit
  | _, [] => .ok ()
  | number, p :: partitions => do
    checkRow hosts map number p.row
    checkMapFrom hosts map (number + 1) partitions

/-- All ordinals of a map are good. -/
def checkMap (partitions : List Partition) (hosts : Int) (map : Text) : Except Failure Unit :=
  checkMapFrom hosts map 0 partitions

namespace BucketConfig

/-- The name of the current map in messages. -/
def currentName : Text := Text.ofString "current"

/-- The name of the fast-forward map in messages. -/
def forwardName : Text := Text.ofString "fast-forward"

/-- A fast-forward map, if there is one, is good. -/
def checkForward (hosts : Nat) : Option (List Partition) → Except Failure Unit
  | none => .ok ()
  | some partitions => checkMap partitions hosts forwardName

/-- The capability without which a bucket that lists capabilities is ephemeral. -/
def persistenceCapability : Text := Text.ofString "couchapi"

/-- The bucket keeps its data in memory only. One that lists no capabilities is older than that. -/
def isEphemeral : Option (List Text) → Bool
  | none => false
  | some capabilities => !capabilities.contains persistenceCapability

/-- The config of a document. -/
def build (log : Option Channel) (d : Document) : Run BucketConfig := do
  let log := log.getD .builder
  let hosts ← partitionHosts (some log) d.nodes d.layout.descriptors
  let primaries ← Run.ofExcept (primaryHosts d.nodes d.layout.partitions)
  Run.ofExcept (checkMap d.layout.partitions hosts.length currentName)
  Run.ofExcept (checkForward hosts.length d.layout.forward)
  let config : BucketConfig :=
    { rev := d.rev, name := d.name, uri := d.uri, streamingUri := d.streamingUri,
      nodes := d.nodes, layout := d.layout, hosts := hosts, primaries := primaries,
      ephemeral := isEphemeral d.capabilities }
  let before : Message := ["Built "]
  Run.emit log .debug (before ++ config.message)
  return config

end BucketConfig

end BucketMap
