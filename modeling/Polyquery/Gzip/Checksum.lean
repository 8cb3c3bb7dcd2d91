import Polyquery.Text.Utf8

/-!
# Checksums

The checksum of data is the remainder of its bits, read as a polynomial over the field of two elements, on
division by a fixed polynomial of degree 32.
-/

namespace Polyquery
namespace Gzip

def shifted (remainder : UInt32) : UInt32 :=
  if remainder &&& 1 = 1 then (remainder >>> 1) ^^^ 0xEDB88320 else remainder >>> 1

def absorb (remainder : UInt32) (byte : UInt8) : UInt32 :=
  Nat.repeat shifted 8 (remainder ^^^ byte.toUInt32)

def checksum (data : Bytes) : UInt32 :=
  data.foldl absorb 0xFFFFFFFF ^^^ 0xFFFFFFFF

end Gzip
end Polyquery
