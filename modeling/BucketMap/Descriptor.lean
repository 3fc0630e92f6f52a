import BucketMap.Node
import BucketMap.Partition

/-!
# Host descriptors

A descriptor names a partition host as `host`, `host:port`, `[address]` or `[address]:port`. The
port zero, like none, stands for any data port.

* `Descriptor.split?` cuts a descriptor into host and port text.
* `Descriptor.read` gives the normal form of the host and the port; a port that is no numeral
  counts as none and is reported.
* `Descriptor.resolve` are the nodes that a descriptor names, in the order of the node list. A
  good document has exactly one; otherwise that is reported.
* Both report on the channel that they are given, or on the resolver's if they are given none.
-/

namespace BucketMap

/-- A host and a data port. -/
structure Descriptor where
  address : Text
  port : Int
deriving DecidableEq

namespace Descriptor

/-- The port that stands for any port. -/
def anyPort : Int := 0

/-- The host, with its brackets, and the text of the port. -/
def split? (t : Text) : Option (Text × Option Text) :=
  if t.head? = some (CodePoint.ofChar '[') then
    match Text.cut ']' t with
    | (_, none) => none
    | (before, some []) => some (before ++ [CodePoint.ofChar ']'], none)
    | (before, some (c :: port)) =>
      if c = ':' then some (before ++ [CodePoint.ofChar ']'], some port) else none
  else
    match Text.splitOn ':' t with
    | [host] => some (host, none)
    | [host, port] => some (host, some port)
    | _ => none

/-- The port that a text writes; what is no numeral is reported. -/
def readPort (log : Channel) (descriptor : Text) : Option Text → Run Int
  | none => .ok anyPort
  | some t =>
    match Numeral.read t with
    | .ok port => .ok port
    | .error _ => do
      Run.emit log .warning
        ["Could not parse port from the node address: ", descriptor, ", fallback to 0"]
      return anyPort

/-- The host and port of a descriptor without white space around it. -/
def readStripped (log : Channel) (t : Text) : Run Descriptor :=
  match split? t with
  | none => Run.refuse (.descriptor (.str t))
  | some (host, port) =>
    match Address.normalize host with
    | .error fault => Run.refuse (.address fault)
    | .ok address => do return ⟨address, ← readPort log t port⟩

/-- The host and port of a descriptor. -/
def read (log : Option Channel) (raw : Json) : Run Descriptor :=
  match raw with
  | .str t =>
    if (Text.strip t).isEmpty then Run.refuse (.descriptor raw)
    else readStripped (log.getD .resolver) (Text.strip t)
  | _ => Run.refuse (.descriptor raw)

/-- The descriptor names the node. -/
def names (d : Descriptor) (n : Node) : Bool :=
  n.hostname = d.address && (d.port = anyPort || n.port? .data = some d.port)

/-- The nodes that a descriptor names. -/
def matching (d : Descriptor) (nodes : List Node) : List Node := nodes.filter d.names

/-- A port as a value. -/
def portValue : Option Int → Json
  | some port => .int port
  | none => .null

/-- The report on the nodes that a descriptor names, unless it is exactly one. -/
def report (log : Channel) (raw : Json) : List Node → Run Unit
  | [] => Run.emit log .warning ["Partition host ", .display raw, " does not match any node"]
  | [_] => .ok ()
  | found =>
    Run.emit log .warning ["Partition host ", .display raw, " is ambiguous, ", found.length,
      " nodes match: ", .shown (.arr (found.map fun n => portValue (n.port? .data)))]

/-- The nodes that a descriptor names, in the order of the node list. -/
def resolve (log : Option Channel) (raw : Json) (nodes : List Node) : Run (List Node) := do
  let log := log.getD .resolver
  let d ← read (some log) raw
  let found := d.matching nodes
  report log raw found
  return found

end Descriptor

end BucketMap
