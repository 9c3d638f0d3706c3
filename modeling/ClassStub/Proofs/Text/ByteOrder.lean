import Mathlib.Data.List.Lex
import ClassStub.Text.Utf8

/-!
# The order of texts and of their bytes

Texts are compared character by character, by code points. UTF-8 keeps that order: a smaller character has smaller
bytes, whatever follows, so texts in their order are in the order of their bytes.
-/

namespace ClassStub.Text

/-- What comes no later than another text and is not the same comes before it. -/
lemma lt_of_le_of_ne {a b : String} (hle : a ≤ b) (hne : a ≠ b) : a < b := by
  by_contra hlt
  exact hne (String.le_antisymm hle (String.not_lt.1 hlt))

/-- What is sorted by a text is in the order of these texts. -/
lemma pairwise_mergeSort {α : Type} (key : α → String) (xs : List α) :
    (xs.mergeSort fun a b => decide (key a ≤ key b)).Pairwise fun a b => key a ≤ key b := by
  have hsorted : (xs.mergeSort fun a b => decide (key a ≤ key b)).Pairwise fun a b => decide (key a ≤ key b) = true := by
    refine List.pairwise_mergeSort ?_ ?_ xs
    · intro first second third hfirst hsecond
      exact decide_eq_true (String.le_trans (of_decide_eq_true hfirst) (of_decide_eq_true hsecond))
    · intro first second
      simpa using String.le_total (key first) (key second)
  exact hsorted.imp of_decide_eq_true

namespace Utf8

/-- A smaller character has smaller bytes: fewer of them with a smaller lead, or as many and the first one that differs
is smaller. -/
lemma encodeChar_append_lt {c d : Char} (h : c < d) (xs ys : Bytes) : encodeChar c ++ xs < encodeChar d ++ ys := by
  have hval : c.val.toNat < d.val.toNat := h
  have hbound : d.val.toNat < 0x110000 := by
    rcases d.valid with hlow | ⟨-, hhigh⟩
    · exact Nat.lt_trans hlow (by decide)
    · exact hhigh
  rw [encodeChar, encodeChar, String.utf8EncodeChar, String.utf8EncodeChar]
  generalize c.val.toNat = n at hval ⊢
  generalize d.val.toNat = m at hval hbound ⊢
  split_ifs <;>
    simp (disch := omega) only [List.cons_append, List.nil_append, List.cons_lt_cons_iff, UInt8.lt_iff_toNat_lt,
      ← UInt8.toNat_inj, UInt8.toNat_ofNat', Nat.mod_eq_of_lt] <;>
    omega

/-- Texts in their order are in the order of their bytes. -/
lemma encode_lt_encode {a b : String} (h : a < b) : encode a < encode b := by
  have hchars : a.toList < b.toList := h
  rw [encode, encode]
  generalize a.toList = cs at hchars ⊢
  generalize b.toList = ds at hchars ⊢
  induction cs generalizing ds with
  | nil =>
    cases ds with
    | nil => exact absurd hchars (List.lt_irrefl _)
    | cons d ds =>
      obtain ⟨byte, bytes, hd⟩ := List.exists_cons_of_ne_nil (String.utf8EncodeChar_ne_nil (c := d))
      rw [List.flatMap_nil, List.flatMap_cons, encodeChar, hd]
      exact List.nil_lt_cons _ _
  | cons c cs ih =>
    cases ds with
    | nil => exact absurd hchars (List.not_lt_nil _)
    | cons d ds =>
      rw [List.flatMap_cons, List.flatMap_cons]
      rcases List.cons_lt_cons_iff.1 hchars with hlt | ⟨rfl, hrest⟩
      · exact encodeChar_append_lt hlt _ _
      · exact List.append_left_lt (ih ds hrest)

end Utf8

end ClassStub.Text
