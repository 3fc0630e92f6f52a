import BucketMap.Node
import BucketMap.Partition

/-!
# Bucket documents

What a bucket's configuration document says, once it has been read.
-/

namespace BucketMap

/-- A bucket document. -/
structure Document where
  /-- The revision, by which newer documents are known. -/
  rev : Int
  name : Text
  uri : Option Text
  streamingUri : Option Text
  layout : Layout
  /-- The nodes in document order. -/
  nodes : List Node
  /-- The capabilities of the bucket, unless the document does not list any. -/
  capabilities : Option (List Text)

namespace Document

/-- A rebalance of the bucket is going on. -/
def tainted (d : Document) : Bool := d.layout.tainted

/-- The node lists have the same addresses in the same order. -/
def sameNodes : List Node → List Node → Bool
  | [], [] => true
  | a :: as, b :: bs => a.same b && sameNodes as bs
  | _, _ => false

/-- Equality field by field, of nodes by their addresses. -/
def same (a b : Document) : Bool :=
  a.rev = b.rev && a.name = b.name && a.layout.same b.layout && sameNodes a.nodes b.nodes &&
    a.uri = b.uri && a.streamingUri = b.streamingUri && a.capabilities = b.capabilities

end Document

end BucketMap
