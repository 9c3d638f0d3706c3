import ClassStub.Bytes

/-!
# Reading bits

Compressed data is a sequence of bits, the lowest bit of each byte first. A `BitReader` takes bits off the front
or fails.
-/

namespace ClassStub.Zip

/-- Why compressed data cannot be expanded. -/
inductive StreamFault where
  | corrupt
  | incomplete
  deriving DecidableEq, Repr

/-- The wording of a fault. -/
def StreamFault.message : StreamFault → String
  | corrupt => "corrupt deflate stream"
  | incomplete => "incomplete deflate stream"

/-- The bits of a byte, the lowest first. -/
def byteBits (b : UInt8) : List Bool :=
  (List.range 8).map fun i => b.toNat.testBit i

/-- The bits of bytes. -/
def bitsOf (bytes : Bytes) : List Bool := bytes.flatMap byteBits

/-- A computation that takes bits off its input or fails. -/
abbrev BitReader := StateT (List Bool) (Except StreamFault)

namespace BitReader

/-- Takes one bit. -/
def bit : BitReader Bool := fun input =>
  match input with
  | b :: rest => .ok (b, rest)
  | [] => .error .incomplete

/-- Takes a number of so many bits, the lowest first. -/
def number : Nat → BitReader Nat
  | 0 => pure 0
  | n + 1 => do
    let low ← bit
    let high ← number n
    return low.toNat + 2 * high

/-- Drops bits up to the next byte. -/
def align : BitReader Unit := modify fun input => input.drop (input.length % 8)

end BitReader

end ClassStub.Zip
