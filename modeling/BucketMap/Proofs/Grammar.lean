import BucketMap.Document.Read
import BucketMap.Proofs.DecodedValue
import BucketMap.Proofs.Verdict

/-!
# The grammar of documents

What a document has to look like, field by field, said without the reader. A field is required or
optional; an optional one may be missing or null, and some may hold any value that stands for
"nothing given" (`Json.isFalsy`). Ports and ordinals are values that stand for an integer
(`Json.StandsForInteger`).

* `WellFormed` is the grammar. It is stated for any form of the entries of the second node list;
  `ExtendedWellFormed` is their form.
* `Overflowing` says of a document that an infinite number in the place of an ordinal or a port is
  the first thing wrong with it, in the order in which the fields are read.
-/

namespace BucketMap

/-! ## Values -/

namespace Json

/-- A number without fraction and exponent. -/
def IsInteger (v : Json) : Prop := ∃ n, v = int n

/-- A text. -/
def IsText (v : Json) : Prop := ∃ t, v = str t

/-- An array. -/
def IsArray (v : Json) : Prop := ∃ items, v = arr items

/-- An object. -/
def IsObject (v : Json) : Prop := ∃ fields, v = obj fields

/-- An array whose members all have the property. -/
def ArrayOf (P : Json → Prop) (v : Json) : Prop := ∃ items, v = arr items ∧ ∀ item ∈ items, P item

/-- An array with a bad member, and all members in front of the first bad one are good. -/
def ArrayFaulty (Good Bad : Json → Prop) (v : Json) : Prop :=
  ∃ items, v = arr items ∧ FirstFault Good Bad items

/-- An object whose fields have the property. -/
def ObjectWith (P : List (Text × Json) → Prop) (v : Json) : Prop :=
  ∃ fields, v = obj fields ∧ P fields

/-- The value stands for nothing, or it has the property. -/
def FalsyOr (P : Json → Prop) (v : Json) : Prop := v.isFalsy = true ∨ P v

/-- The value stands for an integer. -/
def StandsForInteger (v : Json) : Prop := ∃ n, v.toInt = .ok n

/-- An infinite number. -/
def IsInfinite (v : Json) : Prop := ∃ negative, v = float (.infinity negative)

end Json

open Json

namespace Fields

/-- The field is given, and its value has the property. -/
def Required (fields : Fields) (key : String) (P : Json → Prop) : Prop :=
  ∃ v, fields.given? key = some v ∧ P v

/-- The field is missing or null, or its value has the property. -/
def Optional (fields : Fields) (key : String) (P : Json → Prop) : Prop :=
  ∀ v, fields.given? key = some v → P v

end Fields

/-! ## The grammar -/

/-- A row of a map: not empty, and all its members stand for integers. -/
def RowWellFormed (row : Json) : Prop :=
  ∃ items, row = .arr items ∧ items ≠ [] ∧ ∀ v ∈ items, v.StandsForInteger

/-- The form of the server map. -/
structure ServerMapWellFormed (fields : Fields) : Prop where
  servers : fields.Required "serverList" IsArray
  current : fields.Required "vBucketMap" (ArrayOf RowWellFormed)
  forward : fields.Optional "vBucketMapForward" (ArrayOf RowWellFormed)
  replicas : fields.Required "numReplicas" IsInteger

/-- The host of a node: a descriptor whose address has a normal form. -/
def HostWellFormed (v : Json) : Prop :=
  ∃ t d address, v = .str t ∧ (Descriptor.read none (.str t)).outcome = .ok d ∧
    Address.normalize d.address = .ok address

/-- The form of the fields of a node. -/
structure NodeWellFormed (fields : Fields) : Prop where
  host : fields.Required "hostname" HostWellFormed
  ports : fields.Optional "ports"
    (FalsyOr (ObjectWith fun ports => Fields.Optional ports "direct" StandsForInteger))
  view : fields.Optional "couchApiBase" (FalsyOr IsText)

/-- A field is the port of a known service. -/
def IsPort (field : Text × Json) : Prop := ∃ service, Service.ofKey? field.1 = some service

/-- The form of the services of an entry: the ports of the known ones stand for integers. -/
def ServicesWellFormed (services : Fields) : Prop :=
  ∀ field ∈ services, IsPort field → field.2.StandsForInteger

/-- The form of an entry of the second node list. One without a host may have any form. -/
def ExtendedWellFormed (entry : Json) : Prop :=
  ∀ fields host, entry = .obj fields → Json.lookup (Text.ofString "hostname") fields = some host →
    Fields.Optional fields "services" (FalsyOr (ObjectWith ServicesWellFormed)) ∧
      ∃ t address, host.display = .ok t ∧ Address.normalize t = .ok address

/-- The form of the fields of a document, given the form of the entries of the second node list. -/
structure DocumentWellFormed (Entry : Json → Prop) (fields : Fields) : Prop where
  rev : fields.Required "rev" IsInteger
  name : fields.Required "name" IsText
  serverMap : fields.Required "vBucketServerMap" (ObjectWith ServerMapWellFormed)
  nodes : fields.Required "nodes" (ArrayOf (ObjectWith NodeWellFormed))
  extended : fields.Optional "nodesExt" (ArrayOf Entry)
  capabilities : fields.Optional "bucketCapabilities" IsArray
  uri : fields.Optional "uri" IsText
  streamingUri : fields.Optional "streamingUri" IsText

/-- The form of a document, given the form of the entries of the second node list. -/
def WellFormed (Entry : Json → Prop) (v : Json) : Prop := ObjectWith (DocumentWellFormed Entry) v

/-! ## Infinite ordinals and ports -/

/-- The first member of a row that stands for no integer is infinite. -/
def RowOverflowing (row : Json) : Prop := ArrayFaulty StandsForInteger IsInfinite row

/-- The first fault of a map is an infinite ordinal. -/
def MapOverflowing (map : Json) : Prop := ArrayFaulty RowWellFormed RowOverflowing map

/-- The first fault of the server map is an infinite ordinal. -/
inductive ServerMapOverflowing (fields : Fields) : Prop
  | current (servers : fields.Required "serverList" IsArray)
      (current : fields.Required "vBucketMap" MapOverflowing)
  | forward (servers : fields.Required "serverList" IsArray)
      (current : fields.Required "vBucketMap" (ArrayOf RowWellFormed))
      (forward : fields.Required "vBucketMapForward" MapOverflowing)

/-- The first port of the services that stands for no integer is infinite. -/
def ServicesOverflowing (services : Fields) : Prop :=
  FirstFault (fun field => IsPort field → field.2.StandsForInteger)
    (fun field => IsPort field ∧ field.2.IsInfinite) services

/-- The first fault of an entry of the second node list is an infinite port. -/
def ExtendedOverflowing (entry : Json) : Prop :=
  ∃ fields host, entry = .obj fields ∧ Json.lookup (Text.ofString "hostname") fields = some host ∧
    Fields.Required fields "services" (ObjectWith ServicesOverflowing)

/-- The first fault of a node is that its data port is infinite. -/
structure NodeOverflowing (fields : Fields) : Prop where
  host : fields.Required "hostname"
    fun v => ∃ t d, v = .str t ∧ (Descriptor.read none (.str t)).outcome = .ok d
  ports : fields.Required "ports" (ObjectWith fun ports => Fields.Required ports "direct" IsInfinite)

/-- The first fault of a document is an infinite ordinal or port. -/
structure DocumentOverflowing (fields : Fields) : Prop where
  rev : fields.Required "rev" IsInteger
  name : fields.Required "name" IsText
  first : fields.Required "vBucketServerMap" (ObjectWith ServerMapOverflowing) ∨
    fields.Required "vBucketServerMap" (ObjectWith ServerMapWellFormed) ∧
      fields.Required "nodes" IsArray ∧
      (fields.Required "nodesExt" (ArrayFaulty ExtendedWellFormed ExtendedOverflowing) ∨
        fields.Optional "nodesExt" (ArrayOf ExtendedWellFormed) ∧
        fields.Required "nodes"
          (ArrayFaulty (ObjectWith NodeWellFormed) (ObjectWith NodeOverflowing)))

/-- The first fault of a decoded document is an infinite ordinal or port. -/
def Overflowing (v : Json) : Prop := ObjectWith DocumentOverflowing v

end BucketMap
