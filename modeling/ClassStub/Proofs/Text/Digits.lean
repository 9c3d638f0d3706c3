import Mathlib.Tactic.Common
import ClassStub.Text.Digits

/-!
# Numbers and their digits

Which characters the digits of a number are, and that a number can be told from its decimal writing, with a sign or
without.
-/

namespace ClassStub.Text

/-! ### Hexadecimal -/

/-- Hexadecimal digits are letters and digits. -/
lemma isAlphanum_of_mem_hex {n : Nat} {c : Char} (h : c ∈ (hex n).toList) : c.isAlphanum = true := by
  have hdigit : ∀ d < 16, (Nat.digitChar d).isAlphanum = true := by decide
  rw [hex, String.toList_ofList] at h
  -- From the last digit, which is that of the remainder.
  induction n using Nat.strongRecOn with
  | ind n ih =>
    rw [Nat.toDigits_eq_if (by decide)] at h
    split at h
    · rename_i hlt
      rw [List.mem_singleton] at h
      exact h ▸ hdigit n hlt
    · rename_i hge
      rcases List.mem_append.1 h with hmem | hmem
      · exact ih (n / 16) (by omega) hmem
      · rw [List.mem_singleton] at hmem
        exact hmem ▸ hdigit (n % 16) (Nat.mod_lt n (by decide))

/-! ### Decimal -/

/-- A number is known by its digits. -/
lemma decimal_injective : Function.Injective decimal := by
  intro m n h
  have hdigits := congrArg (Nat.ofDigitChars 10 · 0) (String.ofList_injective h)
  simpa using hdigits

/-- Decimal digits are digits. -/
lemma isDigit_of_mem_decimal {n : Nat} {c : Char} (h : c ∈ (decimal n).toList) : c.isDigit = true := by
  rw [decimal, String.toList_ofList] at h
  exact Nat.isDigit_of_mem_toDigits (by decide) (by decide) h

/-- A number does not begin with a minus. -/
lemma decimal_ne_minus (m : Nat) (rest : String) : decimal m ≠ "-" ++ rest := by
  intro h
  have hmem : '-' ∈ (decimal m).toList := by
    rw [h]
    simp
  exact absurd (isDigit_of_mem_decimal hmem) (by decide)

/-- A number with a sign is known by its text. -/
lemma signedDecimal_injective : Function.Injective signedDecimal := by
  intro m n h
  cases m with
  | ofNat m =>
    cases n with
    | ofNat n => rw [decimal_injective h]
    | negSucc n => exact absurd h (decimal_ne_minus m _)
  | negSucc m =>
    cases n with
    | ofNat n => exact absurd h.symm (decimal_ne_minus n _)
    | negSucc n => rw [Nat.succ.inj (decimal_injective (String.append_right_inj _ |>.1 h))]

end ClassStub.Text
