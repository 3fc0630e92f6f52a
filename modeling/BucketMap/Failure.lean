import BucketMap.Address
import BucketMap.Encoding.Escaped
import BucketMap.Json.Fault
import BucketMap.Message

/-!
# Failures

Everything that can be refused, by its cause. `Failure.message` words it and `Failure.family` says
what sort of failure it is: a reader of configurations that only has to survive bad documents
looks at the family alone.

* `ConfigurationFault` are the causes for which a document or a map is refused.
* `refuse` fails with such a cause; if an integer in its message is too long to be written, with
  that failure instead.
-/

namespace BucketMap

/-- Why a JSON value is not accepted as an integer. -/
inductive IntegerFault
  | numeral (fault : NumeralFault)
  | notANumber
  | infinite
  | wrongKind (kind : Json.Kind)

/-- Why the ports of a node are not accepted. -/
inductive PortFault
  | integer (fault : IntegerFault)
  /-- The ports are no object. -/
  | ports (kind : Json.Kind)
  /-- The services are no object. -/
  | services (kind : Json.Kind)
  /-- The view engine's address is no text. -/
  | url (kind : Json.Kind)

/-- Why a document or a map is refused. -/
inductive ConfigurationFault
  | address (fault : Address.Fault)
  /-- A descriptor that names no host. -/
  | descriptor (raw : Json)
  | hostCount (descriptors hosts : Nat)
  | masterOutside (master : Int) (partition nodes : Nat)
  | ordinalBelow (partition : Nat) (map : Text) (ordinal : Int)
  | ordinalBeyond (partition : Nat) (map : Text) (ordinal hosts : Int)
  | notJson (fault : Json.Fault)
  | notAnObject
  | missing (key : Text)
  | wrongKind (key : Text) (kind : Json.Kind)
  | extendedPort (host : Json) (fault : PortFault)
  | nodeNotObject (node : Json)
  | nodePort (host : Text) (fault : PortFault)
  | emptyRow (map : Text) (row : Nat)
  | rowOrdinals (map : Text) (row : Nat) (value : Json)

/-- Everything that can be refused. -/
inductive Failure
  | configuration (fault : ConfigurationFault)
  /-- The config has no fast-forward map. -/
  | noForwardMap
  | partitionCount (count : Int)
  | integer (fault : IntegerFault)
  /-- An integer is too long to be written. -/
  | numeralTooLong
  | unencodable (run : Utf8.SurrogateRun)
  /-- A row without a master. -/
  | emptyRow
  /-- A text in place of a row, without a character for the master. -/
  | emptyText
  | nodeIndex (index : Int) (hosts : Nat)
  | tooDeep (container : Json.Kind)

/-- The sorts of failures. -/
inductive Family
  | configuration | illegalState | value | encoding | overflow | type | index | recursion
deriving DecidableEq

/-! ## Wording -/

/-- The words for a text that is no numeral; of a long one only the start is quoted. -/
def NumeralFault.message : NumeralFault → Message
  | malformed t => ["invalid literal for int() with base 10: ", (t.quoted.take 200 : Text)]
  | tooManyDigits count => [Json.digitLimitText count]

/-- The words for a value that is no integer. -/
def IntegerFault.message : IntegerFault → Message
  | numeral fault => fault.message
  | notANumber => ["cannot convert float NaN to integer"]
  | infinite => ["cannot convert float infinity to integer"]
  | wrongKind kind =>
    ["int() argument must be a string, a bytes-like object or a real number, not '", kind.name, "'"]

/-- The words for ports that are not accepted. -/
def PortFault.message : PortFault → Message
  | integer fault => fault.message
  | ports kind => ["'", kind.name, "' object has no attribute 'get'"]
  | services kind => ["'", kind.name, "' object has no attribute 'items'"]
  | url kind =>
    if kind = .arr ∨ kind = .obj then ["unhashable type: '", kind.name, "'"]
    else ["'", kind.name, "' object has no attribute 'decode'"]

/-- The words for a host without normal form. -/
def Address.Fault.message : Address.Fault → Message
  | brackets host => ["Malformed address: ", .quoted host]
  | empty => ["Empty address"]

/-- The words for a refused document or map. -/
def ConfigurationFault.message : ConfigurationFault → Message
  | address fault => fault.message
  | descriptor raw => ["Could not resolve ", .shown raw, " on config building"]
  | hostCount descriptors hosts =>
    ["Partition host size mismatch after conversion: ", descriptors, " descriptors resolved to ",
      hosts, " nodes"]
  | masterOutside master partition nodes =>
    ["Master ", master, " of partition ", partition, " is outside the node list of ", nodes,
      " nodes"]
  | ordinalBelow partition map ordinal =>
    ["Partition ", partition, " of the ", map, " map has invalid ordinal ", ordinal,
      ", only -1 marks a missing owner"]
  | ordinalBeyond partition map ordinal hosts =>
    ["Partition ", partition, " of the ", map, " map references host ", ordinal, ", only ", hosts,
      " partition hosts exist"]
  | notJson fault => ["Bucket config is not valid JSON: ", fault.text]
  | notAnObject => ["Bucket config must be a JSON object"]
  | missing key => ["Bucket config is missing ", .quoted key]
  | wrongKind key kind =>
    ["Bucket config field ", .quoted key, " has unexpected type ", kind.name]
  | extendedPort host fault =>
    let before : Message := ["nodesExt entry ", .display host, " lists an invalid port: "]
    before ++ fault.message
  | nodeNotObject node => ["Node entry must be an object: ", .shown node]
  | nodePort host fault =>
    let before : Message := ["Node ", host, " lists an invalid port: "]
    before ++ fault.message
  | emptyRow map row => [map, "[", row, "] must be a non-empty list"]
  | rowOrdinals map row value => [map, "[", row, "] is not a list of ordinals: ", .shown value]

/-- The words for an integer that is too long to be written. -/
def numeralTooLongText : Text :=
  Text.ofString "Exceeds the limit (4300 digits) for integer string conversion; " ++
    Text.ofString "use sys.set_int_max_str_digits() to increase the limit"

namespace Failure

/-- The words for a failure. -/
def message : Failure → Message
  | configuration fault => fault.message
  | noForwardMap => ["Could not get index from fast-forward map, none found in this config"]
  | partitionCount count => ["Invalid partition count: ", count, ". Must be a power of two"]
  | integer fault => fault.message
  | numeralTooLong => [numeralTooLongText]
  | unencodable run => [run.text]
  | emptyRow => ["list index out of range"]
  | emptyText => ["string index out of range"]
  | nodeIndex index hosts =>
    ["Node index ", index, " out of range for ", hosts, " partition hosts"]
  | tooDeep container => [Json.tooDeepText container]

/-- The sort of a failure. -/
def family : Failure → Family
  | configuration _ => .configuration
  | noForwardMap => .illegalState
  | partitionCount _ => .value
  | integer (.numeral _) => .value
  | integer .notANumber => .value
  | integer .infinite => .overflow
  | integer (.wrongKind _) => .type
  | numeralTooLong => .value
  | unencodable _ => .encoding
  | emptyRow => .index
  | emptyText => .index
  | nodeIndex _ _ => .index
  | tooDeep _ => .recursion

/-- The text of a failure. -/
def text (f : Failure) : Text :=
  match f.message.render with
  | .ok t => t
  | .error _ => numeralTooLongText

/-- The failure, or that an integer in its message is too long to be written. -/
def sayable (f : Failure) : Failure :=
  match f.message.render with
  | .ok _ => f
  | .error _ => .numeralTooLong

end Failure

/-- The sort of failure of a text that cannot be handed to the operating system. -/
def Escaped.Fault.family : Escaped.Fault → Family
  | unencodable _ => .encoding
  | nullCharacter => .value

/-- Refusal of a document or a map. -/
def refuse {α : Type} (fault : ConfigurationFault) : Except Failure α :=
  .error (Failure.configuration fault).sayable

end BucketMap
