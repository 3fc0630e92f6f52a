import BucketMap.Document.NodeList
import BucketMap.Document.ServerMap
import BucketMap.Json.Reader

/-!
# Reading a bucket document

`Document.read` reads a document from text, from bytes or from a decoded value (a decoded text is
read as text). Only the fields needed for the ownership of partitions are looked at, others are
ignored. What is malformed is refused as a configuration; nesting without end and infinite numbers
where an integer is needed fail in their own way.
-/

namespace BucketMap

/-- Where a document comes from. -/
inductive Source
  | text (t : Text)
  | bytes (b : Bytes)
  | value (v : Json)

namespace Document

/-- The failure for text that is not JSON. -/
def jsonFailure : Json.Fault → Failure
  | .tooDeep container => .tooDeep container
  | fault => (Failure.configuration (.notJson fault)).sayable

/-- The decoded value. -/
def decode : Source → Except Failure Json
  | .text t => (Json.ofText .standard t).mapError jsonFailure
  | .bytes b => (Json.ofBytes .standard b).mapError jsonFailure
  | .value (.str t) => (Json.ofText .standard t).mapError jsonFailure
  | .value v => .ok v

/-- The capabilities, unless the document does not list any. -/
def readCapabilities (fields : Fields) : Except Failure (Option (List Text)) := do
  match ← fields.array? "bucketCapabilities" with
  | none => return none
  | some values => return some (← Fields.displayAll values)

/-- The document with the given fields. -/
def readFields (defaults : PortDefaults) (fields : Fields) : Run Document := do
  let rev ← Run.ofExcept (fields.integer "rev")
  let name ← Run.ofExcept (fields.text "name")
  let serverMap ← Run.ofExcept (fields.object "vBucketServerMap")
  let layout ← Run.ofExcept (Layout.read serverMap)
  let rawNodes ← Run.ofExcept (fields.array "nodes")
  let rawExtended ← Run.ofExcept (fields.array? "nodesExt")
  let extended ← readExtendedList (rawExtended.getD [])
  let nodes ← readNodes defaults extended 0 rawNodes
  let capabilities ← Run.ofExcept (readCapabilities fields)
  let uri ← Run.ofExcept (fields.text? "uri")
  let streamingUri ← Run.ofExcept (fields.text? "streamingUri")
  Run.emit .parser .debug ["Parsed config rev ", rev, " for bucket ", name, ": ", nodes.length,
    " nodes, ", layout.partitions.length, " partitions"]
  return ⟨rev, name, uri, streamingUri, layout, nodes, capabilities⟩

/-- The document that a decoded value describes. -/
def readValue (defaults : PortDefaults) : Json → Run Document
  | .obj fields => readFields defaults fields
  | _ => Run.refuse .notAnObject

/-- The document that a source describes. -/
def read (defaults : PortDefaults) (source : Source) : Run Document := do
  let value ← Run.ofExcept (decode source)
  readValue defaults value

end Document

end BucketMap
