/-!
# CRC-32

The cyclic redundancy check of 32 bits with the reflected polynomial `0xEDB88320`, bit by bit.
-/

namespace BucketMap

namespace Crc32

/-- One bit: the register moves down, and a one that falls out brings the polynomial in. -/
def shift (register : UInt32) : UInt32 :=
  if register &&& 1 = 1 then (register >>> 1) ^^^ 0xEDB88320 else register >>> 1

/-- One byte. -/
def step (register : UInt32) (b : UInt8) : UInt32 :=
  let r := register ^^^ b.toUInt32
  shift (shift (shift (shift (shift (shift (shift (shift r)))))))

end Crc32

/-- The check value of a sequence of bytes. -/
def crc32 (bytes : List UInt8) : UInt32 := bytes.foldl Crc32.step 0xFFFFFFFF ^^^ 0xFFFFFFFF

end BucketMap
