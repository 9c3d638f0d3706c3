import ClassStub.Zip.Huffman

/-!
# Expanding compressed data

Deflated data is a sequence of blocks. A block holds bytes as they are, or symbols of two codes: a literal byte,
the end of the block, or a length that is followed by a distance and stands for a repetition of what is already
there; in front of the first byte there are zeros without end. The codes are fixed, or the block starts with their
lengths. What follows the last block is ignored.
-/

namespace ClassStub.Zip.Inflate

/-- The bytes so far. -/
abbrev Output := Array UInt8

/-- The codes of a block. -/
structure Codes where
  literals : Code
  distances : Code

/-- Fails unless there is a value. -/
def require {α : Type} (value : Option α) : BitReader α :=
  match value with
  | some a => pure a
  | none => throw .corrupt

/-- Fails where a condition holds. -/
def refuse (bad : Bool) : BitReader Unit :=
  if bad then throw .corrupt else pure ()

/-- A symbol for a range of numbers: the first of them, and how many bits tell which. -/
structure Range where
  start : Nat
  bits : Nat
  deriving DecidableEq, Repr

/-- Ranges that follow each other, by the number of bits of each. -/
def consecutive (start : Nat) : List Nat → List Range
  | [] => []
  | bits :: others => ⟨start, bits⟩ :: consecutive (start + Nat.pow 2 bits) others

/-- The ranges of lengths, for the symbols from 257 on; the longest length has a symbol of its own. -/
def lengthRanges : List Range :=
  consecutive 3 [0, 0, 0, 0, 0, 0, 0, 0, 1, 1, 1, 1, 2, 2, 2, 2, 3, 3, 3, 3, 4, 4, 4, 4, 5, 5, 5, 5] ++ [⟨258, 0⟩]

/-- The ranges of distances. -/
def distanceRanges : List Range :=
  consecutive 1 [0, 0, 0, 0, 1, 1, 2, 2, 3, 3, 4, 4, 5, 5, 6, 6, 7, 7, 8, 8, 9, 9, 10, 10, 11, 11, 12, 12, 13, 13]

/-- A number of a range. -/
def readRange (range : Range) : BitReader Nat := do
  return range.start + (← BitReader.number range.bits)

/-- The byte at a distance before the end. -/
def byteBack (out : Output) (distance : Nat) : UInt8 :=
  if distance ≤ out.size then out.getD (out.size - distance) 0 else 0

/-- Appends bytes that stand at a distance before the end, one by one. -/
def repeatBytes (distance : Nat) : Nat → Output → Output
  | 0, out => out
  | n + 1, out => repeatBytes distance n (out.push (byteBack out distance))

/-- The symbol that ends a block. -/
def endOfBlock : Nat := 256

/-- Reads symbols up to the end of the block. Each takes a bit at least, so `fuel` bits are enough. -/
def symbols (codes : Codes) : (fuel : Nat) → Output → BitReader Output
  | 0, _ => throw .incomplete
  | fuel + 1, out => do
    let symbol ← codes.literals.decode
    if symbol < endOfBlock then symbols codes fuel (out.push (UInt8.ofNat symbol))
    else if symbol = endOfBlock then return out
    else
      let length ← readRange (← require lengthRanges[symbol - 257]?)
      let distance ← readRange (← require distanceRanges[← codes.distances.decode]?)
      symbols codes fuel (repeatBytes distance length out)

/-- The lengths of the fixed literal code. -/
def fixedLiterals : List Nat :=
  List.replicate 144 8 ++ List.replicate 112 9 ++ List.replicate 24 7 ++ List.replicate 8 8

/-- The lengths of the fixed distance code. -/
def fixedDistances : List Nat := List.replicate 32 5

/-- The codes with given lengths. -/
def codes (literals distances : List Nat) : BitReader Codes := do
  let literals ← require (Code.ofLengths? literals)
  let distances ← require (Code.ofLengths? distances)
  return { literals, distances }

/-- The order in which the lengths of the code for lengths are stored. -/
def lengthOrder : List Nat := [16, 17, 18, 0, 8, 7, 9, 6, 10, 5, 11, 4, 12, 3, 13, 2, 14, 1, 15]

/-- Reads so many three-bit numbers. -/
def triples : Nat → BitReader (List Nat)
  | 0 => pure []
  | n + 1 => do
    let first ← BitReader.number 3
    let others ← triples n
    return first :: others

/-- The code for lengths, from its first `n` lengths as they are stored. -/
def lengthCode (n : Nat) : BitReader Code := do
  let stored := lengthOrder.zip (← triples n)
  require (Code.full? ((List.range lengthOrder.length).map fun symbol => (stored.lookup symbol).getD 0))

/-- Reads code lengths until there are `total`. Each symbol adds one at least, so `fuel` of `total` is enough. -/
def codeLengths (code : Code) (total : Nat) : (fuel : Nat) → List Nat → BitReader (List Nat)
  | 0, lengths => return lengths
  | fuel + 1, lengths =>
    if total ≤ lengths.length then return lengths
    else do
      let symbol ← code.decode
      if symbol < 16 then codeLengths code total fuel (lengths ++ [symbol])
      else
        let more ← match symbol with
          | 16 => do
            let last ← require lengths.getLast?
            let count ← BitReader.number 2
            pure (List.replicate (3 + count) last)
          | 17 => do pure (List.replicate (3 + (← BitReader.number 3)) 0)
          | _ => do pure (List.replicate (11 + (← BitReader.number 7)) 0)
        refuse (total < lengths.length + more.length)
        codeLengths code total fuel (lengths ++ more)

/-- The codes at the start of a block. -/
def storedCodes : BitReader Codes := do
  let literals := 257 + (← BitReader.number 5)
  let distances := 1 + (← BitReader.number 5)
  let stored := 4 + (← BitReader.number 4)
  refuse (286 < literals || 30 < distances)
  let code ← lengthCode stored
  let lengths ← codeLengths code (literals + distances) (literals + distances) []
  codes (lengths.take literals) (lengths.drop literals)

/-- Reads so many bytes. -/
def plainBytes : Nat → Output → BitReader Output
  | 0, out => pure out
  | n + 1, out => do plainBytes n (out.push (UInt8.ofNat (← BitReader.number 8)))

/-- A block of bytes as they are; their number is stored twice, the second time with all bits turned over. -/
def plainBlock (out : Output) : BitReader Output := do
  BitReader.align
  let header ← BitReader.number 32
  let length := header % 0x10000
  refuse (header / 0x10000 ≠ 0xFFFF - length)
  plainBytes length out

/-- One block of a given kind. -/
def block (kind fuel : Nat) (out : Output) : BitReader Output := do
  match kind with
  | 0 => plainBlock out
  | 1 => symbols (← codes fixedLiterals fixedDistances) fuel out
  | 2 => symbols (← storedCodes) fuel out
  | _ => throw .corrupt

/-- All blocks. Each takes a bit at least, so `fuel` bits are enough. -/
def blocks : (fuel : Nat) → Output → BitReader Output
  | 0, _ => throw .incomplete
  | fuel + 1, out => do
    let final ← BitReader.bit
    let kind ← BitReader.number 2
    let out ← block kind fuel out
    if final then return out else blocks fuel out

end Inflate

/-- Expands deflated data. -/
def inflate (data : Bytes) : Except StreamFault Bytes := do
  let bits := bitsOf data
  let (out, _) ← (Inflate.blocks (bits.length + 1) #[]).run bits
  return out.toList

end ClassStub.Zip
