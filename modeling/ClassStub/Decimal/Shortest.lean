import ClassStub.Decimal.Binary64
import ClassStub.Text.Digits

/-!
# Shortest decimals

The shortest decimal of a binary number has the fewest digits that read back as that number; of several it is
the nearest. It is found by trying, for one digit, two digits and so on, the two neighbours of the number with
so many digits. At 17 digits there always is one.
-/

namespace ClassStub.Decimal

/-- A decimal number `digits · 10^exponent`. -/
structure Shortest where
  digits : Nat
  exponent : Int
  deriving DecidableEq, Repr

namespace Shortest

/-- `n · 2^e · 10^-p` as a fraction. -/
def ratio (n : Nat) (e p : Int) : Nat × Nat :=
  (n * Nat.pow 2 e.toNat * Nat.pow 10 (-p).toNat, Nat.pow 2 (-e).toNat * Nat.pow 10 p.toNat)

/--
The neighbour of `x` on the grid of multiples of `10^p` that reads back as `x`, the nearer one if both do. The
numbers that read back lie between the middles to the neighbours of `x`, and a middle belongs to the even side.
-/
def onGrid? (x : Binary64) (p : Int) : Option Nat :=
  -- Everything is measured in quarters of the last place, the half step below a power of two included.
  let e := x.exponent - 2
  let lower := if x.mantissa = Nat.pow 2 52 ∧ Binary64.leastExponent < x.exponent then 1 else 2
  let (middle, den) := ratio (4 * x.mantissa) e p
  let (low, _) := ratio (4 * x.mantissa - lower) e p
  let (high, _) := ratio (4 * x.mantissa + 2) e p
  let even := x.mantissa % 2 = 0
  let readsBack (n : Nat) : Bool :=
    if even then low ≤ n * den && n * den ≤ high else low < n * den && n * den < high
  let below := middle / den
  let above := below + 1
  let nearer := if 2 * middle ≤ (below + above) * den then [below, above] else [above, below]
  nearer.find? fun n => 0 < n && readsBack n

/-- The number of decimal digits of the integer part, or minus the number of zeros behind the point. -/
def magnitude (x : Binary64) : Int :=
  let (num, den) := ratio x.mantissa x.exponent 0
  if den ≤ num then ((Nat.toDigits 10 (num / den)).length : Int)
  else 1 - ((Nat.toDigits 10 (den / num)).length : Int)

/-- Tries grids with more and more digits. -/
def search (x : Binary64) (top : Int) : Nat → Nat → Shortest
  | 0, _ => ⟨0, 0⟩
  | tries + 1, count =>
    match onGrid? x (top - count) with
    | some n => ⟨n, top - count⟩
    | none => search x top tries (count + 1)

/-- The shortest decimal of a number. -/
def ofBinary (x : Binary64) : Shortest :=
  if x.mantissa = 0 then ⟨0, 0⟩ else search x (magnitude x) 19 0

/-- A decimal without an exponent, with at least one digit on each side of the point. -/
def positional (d : Shortest) : String :=
  let digits := Nat.toDigits 10 d.digits
  match d.exponent with
  | .ofNat k => String.ofList (digits ++ (if d.digits = 0 then [] else List.replicate k '0')) ++ ".0"
  | .negSucc k =>
    let places := k + 1
    let padded := List.replicate (places + 1 - digits.length) '0' ++ digits
    String.ofList (padded.take (padded.length - places) ++ '.' :: padded.drop (padded.length - places))

end Shortest

end ClassStub.Decimal
