import BucketMap.Descriptor
import BucketMap.Document.Field
import BucketMap.Url

/-!
# The node lists of a document

A document lists its nodes and, in a second list, the services of nodes in more detail. Entries of
the second list are paired with nodes by address and data port, else by position and address, else
by address if that is unique.

* `readExtended` reads an entry of the second list; one without host keeps its position only.
* `pairedServices` are the services of the entry that belongs to a node.
* `readNode` reads a node: its own data port wins over that of the second list, the other ports of
  the second list win over those of the node.
-/

namespace BucketMap

/-- The ports of nodes that do not list any. -/
structure PortDefaults where
  data : Int
  management : Int

/-- An entry of the second list: the address and the services. -/
abbrev Extended := Text × Services

/-- The failure for a port: an infinite one is a failure of its own. -/
def portFailure (fault : PortFault) (refusal : PortFault → ConfigurationFault) : Failure :=
  match fault with
  | .integer .infinite => .integer .infinite
  | other => (Failure.configuration (refusal other)).sayable

/-! ## The second list -/

/-- The ports of the known services among the fields. -/
def readServices : Services → Fields → Except PortFault Services
  | services, [] => .ok services
  | services, (key, value) :: fields =>
    match Service.ofKey? key with
    | none => readServices services fields
    | some service =>
      match value.toInt with
      | .ok port => readServices (services.set service port) fields
      | .error fault => .error (.integer fault)

/-- What is read from the object at a key. A value that stands for nothing counts as an empty one. -/
def readMembers {α : Type} (fields : Fields) (key : String) (refusal : Json.Kind → PortFault)
    (read : Fields → Except PortFault α) : Except PortFault α :=
  let value := (fields.given? key).getD .null
  if value.isFalsy then read []
  else
    match value with
    | .obj members => read members
    | other => .error (refusal other.kind)

/-- The services of an entry, of which there may be none. -/
def servicesOf (fields : Fields) : Except PortFault Services :=
  readMembers fields "services" .services (readServices [])

/-- The normal form of the host of an entry, which may be any value. -/
def extendedAddress (host : Json) : Except Failure Text :=
  match host.display with
  | .error _ => .error .numeralTooLong
  | .ok t =>
    match Address.normalize t with
    | .ok address => .ok address
    | .error fault => refuse (.address fault)

/-- The fields and the host of an entry that has one. -/
def hostOf? (entry : Json) : Option (Fields × Json) :=
  match entry with
  | .obj fields => (Json.lookup (Text.ofString "hostname") fields).map fun host => (fields, host)
  | _ => none

/-- The address and services of an entry, or none for one without host. -/
def readExtended (entry : Json) : Run (Option Extended) :=
  match hostOf? entry with
  | none => do
    Run.emit .parser .debug ["Skipping nodesExt entry without hostname: ", .display entry]
    return none
  | some (fields, host) =>
    match servicesOf fields with
    | .error fault => Run.fail (portFailure fault (.extendedPort host))
    | .ok services => do
      let address ← Run.ofExcept (extendedAddress host)
      return some (address, services)

/-- The entries of the second list. -/
def readExtendedList : List Json → Run (List (Option Extended))
  | [] => .ok []
  | entry :: entries => do
    let first ← readExtended entry
    let others ← readExtendedList entries
    return first :: others

/-! ## Pairing -/

/-- The entries for an address. -/
def entriesAt (address : Text) (extended : List (Option Extended)) : List Extended :=
  (extended.filterMap id).filter fun e => e.1 = address

/-- The entry at a position, if it is for the address. -/
def entryAtPosition? (address : Text) (position : Nat) (extended : List (Option Extended)) :
    Option Extended :=
  match extended[position]? with
  | some (some e) => if e.1 = address then some e else none
  | _ => none

/-- The only entry of a list. -/
def only? {α : Type} : List α → Option α
  | [a] => some a
  | _ => none

/-- The entry that belongs to a node. -/
def paired? (address : Text) (dataPort : Int) (position : Nat)
    (extended : List (Option Extended)) : Option Extended :=
  let here := entriesAt address extended
  match here.find? fun e => Services.port? .data e.2 = some dataPort with
  | some e => some e
  | none =>
    match entryAtPosition? address position extended with
    | some e => some e
    | none => only? here

/-- The services of the entry that belongs to a node. -/
def pairedServices (address : Text) (dataPort : Int) (position : Nat)
    (extended : List (Option Extended)) : Services :=
  match paired? address dataPort position extended with
  | some e => e.2
  | none => []

/-! ## The nodes -/

/-- The data port among the ports that a node lists itself. -/
def directOf (ports : Fields) : Except PortFault (Option Int) :=
  match ports.given? "direct" with
  | none => .ok none
  | some value =>
    match value.toInt with
    | .ok port => .ok (some port)
    | .error fault => .error (.integer fault)

/-- The data port that a node lists itself. -/
def directPort (fields : Fields) : Except PortFault (Option Int) :=
  readMembers fields "ports" .ports directOf

/-- The port of the view engine's address. -/
def viewPort (fields : Fields) : Run (Except PortFault (Option Int)) :=
  let url := (fields.given? "couchApiBase").getD .null
  if url.isFalsy then .ok (.ok none)
  else
    match url with
    | .str t =>
      match Url.port t with
      | .ok port => .ok (.ok port)
      | .error _ => do
        Run.emit .parser .warning ["Could not parse port from URL: ", t]
        return .ok none
    | other => .ok (.error (.url other.kind))

/-- The services that a node lists itself, where the host's port is that of the management. -/
def ownServices (defaults : PortDefaults) (hostPort : Int) (direct view : Option Int) : Services :=
  let management := if hostPort = Descriptor.anyPort then defaults.management else hostPort
  let services : Services :=
    [(.management, management), (.data, direct.getD defaults.data)]
  match view with
  | some port => services.set .views port
  | none => services

/-- The services of a node: its own ones and those of the entry that belongs to it. -/
def mergeServices (direct : Option Int) (own entry : Services) : Services :=
  let merged := own.update entry
  match direct with
  | some port => merged.set .data port
  | none => merged

/-- The report on a data port that the entry of the second list contradicts. -/
def reportDirect (address : Text) (direct : Option Int) (own entry : Services) : Run Unit :=
  match direct, Services.port? .data (own.update entry) with
  | some port, some listed =>
    if listed = port then .ok ()
    else
      Run.emit .parser .debug ["Node ", address, " lists direct port ", port,
        ", nodesExt lists ", listed]
  | _, _ => .ok ()

/-- The node with the given fields at a position of the node list. -/
def readNodeFields (defaults : PortDefaults) (extended : List (Option Extended)) (position : Nat)
    (fields : Fields) : Run Node := do
  let host ← Run.ofExcept (fields.text "hostname")
  let d ← Descriptor.read none (.str host)
  match directPort fields with
  | .error fault => Run.fail (portFailure fault (.nodePort d.address))
  | .ok direct =>
    let view ← viewPort fields
    match view with
    | .error fault => Run.fail (portFailure fault (.nodePort d.address))
    | .ok view =>
      let own := ownServices defaults d.port direct view
      let entry := pairedServices d.address (direct.getD defaults.data) position extended
      reportDirect d.address direct own entry
      Run.ofExcept (Node.of d.address (mergeServices direct own entry))

/-- The node at a position of the node list. -/
def readNode (defaults : PortDefaults) (extended : List (Option Extended)) (position : Nat) :
    Json → Run Node
  | .obj fields => readNodeFields defaults extended position fields
  | other => Run.refuse (.nodeNotObject other)

/-- The nodes from the given position on. -/
def readNodes (defaults : PortDefaults) (extended : List (Option Extended)) :
    Nat → List Json → Run (List Node)
  | _, [] => .ok []
  | position, raw :: others => do
    let node ← readNode defaults extended position raw
    let nodes ← readNodes defaults extended (position + 1) others
    return node :: nodes

end BucketMap
