import ClassStub.Bytes

/-!
# Checksums

The CRC-32 of bytes: the remainder of a division of polynomials over two elements, with the lowest bit first.
-/

namespace ClassStub.Zip

/-- The divisor, lowest power last. -/
def divisor : UInt32 := 0xEDB88320

/-- Moves a remainder on by one bit. -/
def shiftBit (remainder : UInt32) : UInt32 :=
  if remainder &&& 1 = 1 then (remainder >>> 1) ^^^ divisor else remainder >>> 1

/-- Moves a remainder on by a number of bits. -/
def shiftBits : Nat → UInt32 → UInt32
  | 0, remainder => remainder
  | n + 1, remainder => shiftBits n (shiftBit remainder)

/-- The checksum of bytes. -/
def crc32 (bytes : Bytes) : UInt32 :=
  bytes.foldl (fun remainder b => shiftBits 8 (remainder ^^^ b.toUInt32)) 0xFFFFFFFF ^^^ 0xFFFFFFFF

end ClassStub.Zip
