/-!
# Binary numbers of 64 bits

The finite numbers of the usual 64-bit format are `m · 2^q`, where `m` has at most 53 bits and `q` is at least
-1074. `ofDecimal?` takes a decimal number to the nearest of them, a tie to the even one; a number that is too
large has none. All arithmetic is exact.
-/

namespace ClassStub.Decimal

/-- The number `mantissa · 2^exponent`. -/
structure Binary64 where
  mantissa : Nat
  exponent : Int
  deriving DecidableEq, Repr

namespace Binary64

/-- Mantissas are below this bound. -/
def bound : Nat := Nat.pow 2 53

/-- The least exponent. -/
def leastExponent : Int := -1074

/-- The greatest exponent. -/
def greatestExponent : Int := 971

/-- The quotient rounded to the nearest number, a tie to the even one. -/
def roundDiv (num den : Nat) : Nat :=
  let q := num / den
  let r := num % den
  if 2 * r < den then q
  else if den < 2 * r then q + 1
  else q + q % 2

/-- `num / den` divided by `2^e`, as a fraction. -/
def scaled (num den : Nat) (e : Int) : Nat × Nat :=
  match e with
  | .ofNat k => (num, den * Nat.pow 2 k)
  | .negSucc k => (num * Nat.pow 2 (k + 1), den)

/-- The number nearest to a positive fraction. -/
def ofFraction? (num den : Nat) : Option Binary64 :=
  -- The fraction lies between 2^(estimate - 1) and 2^(estimate + 1).
  let estimate : Int := (Nat.log2 num : Int) - (Nat.log2 den : Int)
  let (n, d) := scaled num den (estimate - 53)
  let exponent := max (if n < bound * d then estimate - 53 else estimate - 52) leastExponent
  let (n, d) := scaled num den exponent
  let rounded := roundDiv n d
  let result : Binary64 :=
    if rounded < bound then ⟨rounded, exponent⟩ else ⟨rounded / 2, exponent + 1⟩
  if result.exponent ≤ greatestExponent then some result else none

/--
The number nearest to `digits · 10^exponent`. A number of `b + 1` bits has between `b / 4` and `b / 3 + 1` decimal
digits behind the first, which tells numbers far outside the format without computing them.
-/
def ofDecimal? (digits : Nat) (exponent : Int) : Option Binary64 :=
  let bits : Int := Nat.log2 digits
  if digits = 0 ∨ bits / 3 + 1 + exponent < -330 then some ⟨0, leastExponent⟩
  else if 310 < bits / 4 + exponent then none
  else
    match exponent with
    | .ofNat k => ofFraction? (digits * Nat.pow 10 k) 1
    | .negSucc k => ofFraction? digits (Nat.pow 10 (k + 1))

end Binary64

end ClassStub.Decimal
