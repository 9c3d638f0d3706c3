/-!
# Byte sequences

Bytes are handled as lists. `split?` takes a number of bytes off the front or says that there are too few;
`bigEndian` and `littleEndian` read numbers, and `ofNumber` writes one.
-/

namespace ClassStub

/-- A sequence of bytes. -/
abbrev Bytes := List UInt8

namespace Bytes

/-- The first `n` bytes and the rest, when there are `n`. -/
def split? : Nat → Bytes → Option (Bytes × Bytes)
  | 0, input => some ([], input)
  | _ + 1, [] => none
  | n + 1, b :: input => (split? n input).map fun (front, rest) => (b :: front, rest)

/-- There is always room for no bytes. -/
@[simp]
theorem split?_zero (input : Bytes) : split? 0 input = some ([], input) := rfl

/-- The end of the input has no byte to give. -/
@[simp]
theorem split?_succ_nil (n : Nat) : split? (n + 1) [] = none := rfl

/-- The first byte comes off in front of the others. -/
@[simp]
theorem split?_succ_cons (n : Nat) (b : UInt8) (input : Bytes) :
    split? (n + 1) (b :: input) = (split? n input).map fun (front, rest) => (b :: front, rest) := rfl

/-- The number that bytes denote, most significant byte first. -/
def bigEndian (bs : Bytes) : Nat :=
  bs.foldl (fun n b => n * 256 + b.toNat) 0

/-- The number that bytes denote, least significant byte first. -/
def littleEndian (bs : Bytes) : Nat :=
  bs.foldr (fun b n => n * 256 + b.toNat) 0

/-- The lowest `size` bytes of a number, most significant byte first. -/
def ofNumber : (size : Nat) → Nat → Bytes
  | 0, _ => []
  | size + 1, n => ofNumber size (n / 256) ++ [UInt8.ofNat n]

/-- A number is written in as many bytes as it is given. -/
@[simp]
theorem length_ofNumber (size n : Nat) : (ofNumber size n).length = size := by
  induction size generalizing n with
  | zero => rfl
  | succ size ih => simp [ofNumber, ih]

end Bytes

end ClassStub
