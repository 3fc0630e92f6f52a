import BucketMap.Failure
import BucketMap.Routing.Crc32

/-!
# Partitions of keys

A key belongs to the partition that fifteen bits of its CRC-32 give. Of these only as many are
kept as number the partitions, so that their number has to be a power of two.

* `Key.partition` is the number of the partition. A bad partition count is refused before the key
  is looked at, and a key that has no UTF-8 form after that.
-/

namespace BucketMap

/-- A document key. -/
inductive Key
  | text (t : Text)
  | bytes (b : Bytes)

namespace Key

/-- The bytes that are hashed. -/
def bytes? : Key → Except Utf8.SurrogateRun Bytes
  | text t => Utf8.encode t
  | bytes b => .ok b

/-- The number is one, two, four, ... -/
def isPowerOfTwo (n : Nat) : Bool := n ≠ 0 && n &&& (n - 1) = 0

/-- The fifteen bits of the check value above the lowest sixteen. -/
def hash (b : Bytes) : Nat := ((crc32 b).toNat >>> 16) &&& 0x7fff

/-- The partition of a key among the given number of partitions. -/
def partition (key : Key) (count : Int) : Except Failure Nat :=
  if count ≤ 0 || !isPowerOfTwo count.toNat then
    .error (Failure.partitionCount count).sayable
  else
    match key.bytes? with
    | .ok b => .ok (hash b &&& (count.toNat - 1))
    | .error run => .error (.unencodable run)

end Key

end BucketMap
