import Mathlib.Algebra.Group.Nat.Defs
import Mathlib.Data.List.Induction
import ClassStub.Bytes

/-!
# Numbers and cuts of byte sequences

`Bytes.split?` cuts a sequence after a number of bytes exactly when the sequence is long enough, and
`Bytes.ofNumber` and `Bytes.bigEndian` are inverse to each other between the sequences of a length and the
numbers that fit in it.
-/

namespace ClassStub.Bytes

/-- A cut after a first part gives both parts back. -/
@[simp]
lemma split?_append (front rest : Bytes) : split? front.length (front ++ rest) = some (front, rest) := by
  induction front with
  | nil => simp
  | cons b front ih => simp [ih]

/-- A cut divides the sequence after the number of bytes that was asked for. -/
lemma split?_eq_some {n input front rest} (h : split? n input = some (front, rest)) :
    front.length = n ∧ input = front ++ rest := by
  induction n generalizing input front with
  | zero =>
    simp only [split?_zero, Option.some.injEq, Prod.mk.injEq] at h
    obtain ⟨rfl, rfl⟩ := h
    exact ⟨rfl, rfl⟩
  | succ n ih =>
    cases input with
    | nil => simp at h
    | cons b input =>
      obtain ⟨⟨front', rest'⟩, hcut, hpair⟩ := Option.map_eq_some_iff.1 h
      obtain ⟨rfl, rfl⟩ := Prod.mk.inj hpair
      obtain ⟨hlen, rfl⟩ := ih hcut
      exact ⟨by simp [hlen], rfl⟩

/-- There is no cut exactly when there are too few bytes. -/
lemma split?_eq_none_iff {n input} : split? n input = none ↔ input.length < n := by
  induction n generalizing input with
  | zero => simp
  | succ n ih =>
    cases input with
    | nil => simp
    | cons b input => simp [ih]

/-- A byte behind others is worth itself, and makes the others worth more. -/
lemma bigEndian_concat (bs : Bytes) (b : UInt8) : bigEndian (bs ++ [b]) = bigEndian bs * 256 + b.toNat := by
  simp [bigEndian]

/-- A number is smaller than the first one that does not fit into its bytes. -/
lemma bigEndian_lt (bs : Bytes) : bigEndian bs < 256 ^ bs.length := by
  induction bs using List.reverseRecOn with
  | nil => simp [bigEndian]
  | append_singleton bs b ih =>
    have hb := b.toNat_lt
    rw [bigEndian_concat, List.length_append, List.length_singleton, Nat.pow_succ]
    omega

/-- Reading a number back that was written in enough bytes. -/
lemma bigEndian_ofNumber {size n : Nat} (h : n < 256 ^ size) : bigEndian (ofNumber size n) = n := by
  induction size generalizing n with
  | zero =>
    have : n = 0 := by simpa using h
    subst this
    rfl
  | succ size ih =>
    have hdiv : n / 256 < 256 ^ size := by
      rw [Nat.div_lt_iff_lt_mul (by omega), ← Nat.pow_succ]
      exact h
    rw [ofNumber, bigEndian_concat, ih hdiv, UInt8.toNat_ofNat']
    omega

/-- Writing a number back that was read. -/
lemma ofNumber_bigEndian (bs : Bytes) : ofNumber bs.length (bigEndian bs) = bs := by
  induction bs using List.reverseRecOn with
  | nil => rfl
  | append_singleton bs b ih =>
    have hb := b.toNat_lt
    -- Writing takes the last byte off the number first, so both sides are cut in front of it.
    have hdiv : (bigEndian bs * 256 + b.toNat) / 256 = bigEndian bs := by omega
    have hmod : UInt8.ofNat (bigEndian bs * 256 + b.toNat) = b := by
      apply UInt8.toNat_inj.1
      rw [UInt8.toNat_ofNat']
      omega
    rw [List.length_append, List.length_singleton, bigEndian_concat, ofNumber, hdiv, hmod, ih]

end ClassStub.Bytes
