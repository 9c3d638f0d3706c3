import Mathlib.Data.List.Basic
import ClassStub.Text.Units

/-!
# Characters and their units

Units that are not surrogates stand for themselves, and a high and a low surrogate for a character beyond
`U+FFFF`. `Units.Paired` describes the sequences made of these two, in which no surrogate stands alone. Writing
characters as units gives a paired sequence that reads back as the characters, and every paired sequence is written
that way. `Units.Lossy` describes how any sequence reads: the same way, and a replacement character for each surrogate
that stands alone.
-/

namespace ClassStub.Text.Units

/-- Every surrogate belongs to a pair: the units are plain ones and pairs of a high and a low surrogate. -/
inductive Paired : List UInt16 → Prop where
  | nil : Paired []
  | plain {u rest} : isHigh u = false → isLow u = false → Paired rest → Paired (u :: rest)
  | pair {u v rest} : isHigh u = true → isLow v = true → Paired rest → Paired (u :: v :: rest)

/-- How units read: plain ones and pairs as their characters, and a surrogate without its partner as the replacement
character. -/
inductive Lossy : List UInt16 → List Char → Prop where
  | nil : Lossy [] []
  | plain {u rest cs} : isHigh u = false → isLow u = false → Lossy rest cs →
      Lossy (u :: rest) (Char.ofNat u.toNat :: cs)
  | pair {u v rest cs} : isHigh u = true → isLow v = true → Lossy rest cs → Lossy (u :: v :: rest) (combine u v :: cs)
  | loneHigh {u rest cs} : isHigh u = true → (∀ v ∈ rest.head?, isLow v = false) → Lossy rest cs →
      Lossy (u :: rest) ('\uFFFD' :: cs)
  | loneLow {u rest cs} : isLow u = true → Lossy rest cs → Lossy (u :: rest) ('\uFFFD' :: cs)

/-- A high surrogate is one of 1024 units. -/
lemma isHigh_iff {u : UInt16} : isHigh u = true ↔ 0xD800 ≤ u.toNat ∧ u.toNat < 0xDC00 := by
  simp [isHigh]

/-- A low surrogate is one of the 1024 units behind these. -/
lemma isLow_iff {u : UInt16} : isLow u = true ↔ 0xDC00 ≤ u.toNat ∧ u.toNat < 0xE000 := by
  simp [isLow]

/-- The numbers of characters: those that are not surrogates, up to the last one. -/
lemma toNat_ofNat {n : Nat} (h : n < 0xD800 ∨ (0xDFFF < n ∧ n < 0x110000)) : (Char.ofNat n).toNat = n := by
  have hvalid : n.isValidChar := h
  rw [Char.ofNat, dif_pos hvalid]
  rfl

/-- A unit that is not a surrogate is the character with its number. -/
lemma toNat_ofNat_of_plain {u : UInt16} (hh : isHigh u = false) (hl : isLow u = false) :
    (Char.ofNat u.toNat).toNat = u.toNat := by
  have hlt := u.toNat_lt
  rw [← Bool.not_eq_true, isHigh_iff] at hh
  rw [← Bool.not_eq_true, isLow_iff] at hl
  exact toNat_ofNat (by omega)

/-- A pair stands for the character with ten bits of each surrogate. -/
lemma toNat_combine {u v : UInt16} (hu : isHigh u = true) (hv : isLow v = true) :
    (combine u v).toNat = 0x10000 + (u.toNat - 0xD800) * 0x400 + (v.toNat - 0xDC00) := by
  rw [isHigh_iff] at hu
  rw [isLow_iff] at hv
  exact toNat_ofNat (by omega)

/-! ### Units of a character -/

/-- A unit that is no surrogate is that of its character. -/
lemma ofChar_plain {u : UInt16} (hh : isHigh u = false) (hl : isLow u = false) :
    ofChar (Char.ofNat u.toNat) = [u] := by
  rw [ofChar, toNat_ofNat_of_plain hh hl, if_pos u.toNat_lt, UInt16.ofNat_toNat]

/-- A pair is that of its character. -/
lemma ofChar_combine {u v : UInt16} (hu : isHigh u = true) (hv : isLow v = true) :
    ofChar (combine u v) = [u, v] := by
  have hn := toNat_combine hu hv
  rw [isHigh_iff] at hu
  rw [isLow_iff] at hv
  have hhigh : 0xD800 + ((combine u v).toNat - 0x10000) / 0x400 = u.toNat := by omega
  have hlow : 0xDC00 + ((combine u v).toNat - 0x10000) % 0x400 = v.toNat := by omega
  rw [ofChar, if_neg (by omega)]
  simp only [hhigh, hlow, UInt16.ofNat_toNat]

/-- A character is one plain unit, or a pair that combines to it. -/
lemma ofChar_cases (c : Char) :
    (∃ u, isHigh u = false ∧ isLow u = false ∧ Char.ofNat u.toNat = c) ∨
      ∃ u v, isHigh u = true ∧ isLow v = true ∧ combine u v = c := by
  have hvalid : c.toNat < 0xD800 ∨ (0xDFFF < c.toNat ∧ c.toNat < 0x110000) := c.valid
  by_cases hc : c.toNat < 0x10000
  · have hu : (UInt16.ofNat c.toNat).toNat = c.toNat := UInt16.toNat_ofNat_of_lt' hc
    refine .inl ⟨UInt16.ofNat c.toNat, ?_, ?_, ?_⟩
    · rw [← Bool.not_eq_true, isHigh_iff, hu]
      omega
    · rw [← Bool.not_eq_true, isLow_iff, hu]
      omega
    · rw [hu, Char.ofNat_toNat]
  · let n := c.toNat - 0x10000
    have hu : (UInt16.ofNat (0xD800 + n / 0x400)).toNat = 0xD800 + n / 0x400 :=
      UInt16.toNat_ofNat_of_lt' (by simp only [UInt16.size]; omega)
    have hv : (UInt16.ofNat (0xDC00 + n % 0x400)).toNat = 0xDC00 + n % 0x400 :=
      UInt16.toNat_ofNat_of_lt' (by simp only [UInt16.size]; omega)
    have hhigh : isHigh (UInt16.ofNat (0xD800 + n / 0x400)) = true := by
      rw [isHigh_iff, hu]
      omega
    have hlow : isLow (UInt16.ofNat (0xDC00 + n % 0x400)) = true := by
      rw [isLow_iff, hv]
      omega
    refine .inr ⟨_, _, hhigh, hlow, Char.toNat_inj.1 ?_⟩
    rw [toNat_combine hhigh hlow, hu, hv]
    omega

/-! ### Reading what was written -/

/-- A unit that is no surrogate is read as its character. -/
lemma decode_plain {u : UInt16} (hh : isHigh u = false) (hl : isLow u = false) (rest : List UInt16) :
    decode (u :: rest) = Char.ofNat u.toNat :: decode rest := by
  cases rest <;> simp [decode, hh, hl]

/-- A pair is read as its character. -/
lemma decode_pair {u v : UInt16} (hu : isHigh u = true) (hv : isLow v = true) (rest : List UInt16) :
    decode (u :: v :: rest) = combine u v :: decode rest := by
  simp [decode, hu, hv]

/-- Characters are read back from their units. -/
lemma decode_flatMap_ofChar (cs : List Char) : decode (cs.flatMap ofChar) = cs := by
  induction cs with
  | nil => rfl
  | cons c cs ih =>
    rw [List.flatMap_cons]
    rcases ofChar_cases c with ⟨u, hh, hl, rfl⟩ | ⟨u, v, hu, hv, rfl⟩
    · rw [ofChar_plain hh hl, List.singleton_append, decode_plain hh hl, ih]
    · rw [ofChar_combine hu hv, List.cons_append, List.singleton_append, decode_pair hu hv, ih]

/-- The units of characters are paired. -/
lemma paired_flatMap_ofChar (cs : List Char) : Paired (cs.flatMap ofChar) := by
  induction cs with
  | nil => exact .nil
  | cons c cs ih =>
    rw [List.flatMap_cons]
    rcases ofChar_cases c with ⟨u, hh, hl, rfl⟩ | ⟨u, v, hu, hv, rfl⟩
    · rw [ofChar_plain hh hl]
      exact .plain hh hl ih
    · rw [ofChar_combine hu hv]
      exact .pair hu hv ih

/-- Where no surrogate stands alone, the characters are written with the same units. -/
lemma Paired.flatMap_ofChar_decode {us : List UInt16} (h : Paired us) : (decode us).flatMap ofChar = us := by
  induction h with
  | nil => rfl
  | plain hh hl _ ih => rw [decode_plain hh hl, List.flatMap_cons, ofChar_plain hh hl, ih, List.singleton_append]
  | pair hu hv _ ih =>
    rw [decode_pair hu hv, List.flatMap_cons, ofChar_combine hu hv, ih, List.cons_append, List.singleton_append]

/-! ### Reading any units -/

/-- A low surrogate is no high one. -/
lemma isHigh_of_isLow {u : UInt16} (h : isLow u = true) : isHigh u = false := by
  rw [isLow_iff] at h
  rw [← Bool.not_eq_true, isHigh_iff]
  omega

/-- A high surrogate without a low one behind it is read as a replacement character. -/
lemma decode_loneHigh {u : UInt16} {rest : List UInt16} (hu : isHigh u = true)
    (hrest : ∀ v ∈ rest.head?, isLow v = false) : decode (u :: rest) = replacement :: decode rest := by
  cases rest with
  | nil => simp [decode, hu]
  | cons v rest => simp [decode, hu, hrest v rfl]

/-- A low surrogate by itself is read as a replacement character. -/
lemma decode_loneLow {u : UInt16} (hu : isLow u = true) (rest : List UInt16) :
    decode (u :: rest) = replacement :: decode rest := by
  have hhigh := isHigh_of_isLow hu
  cases rest <;> simp [decode, hu, hhigh]

/-- There is one text only that units read as. -/
lemma Lossy.eq_decode {us : List UInt16} {cs : List Char} (h : Lossy us cs) : cs = decode us := by
  induction h with
  | nil => rfl
  | plain hh hl _ ih => rw [decode_plain hh hl, ih]
  | pair hu hv _ ih => rw [decode_pair hu hv, ih]
  | loneHigh hu hrest _ ih => rw [decode_loneHigh hu hrest, ih, replacement]
  | loneLow hu _ ih => rw [decode_loneLow hu, ih, replacement]

/-- Units read as what they are decoded to. -/
lemma lossy_decode (us : List UInt16) : Lossy us (decode us) := by
  fun_induction decode us with
  | case1 => exact .nil
  | case2 u hu => exact .loneHigh hu (by simp) .nil
  | case3 u hu v others hv ih => exact .pair hu hv ih
  | case4 u hu v others hv ih => exact .loneHigh hu (by simpa using hv) ih
  | case5 u rest hu hl ih => exact .loneLow hl ih
  | case6 u rest hu hl ih => exact .plain (by simpa using hu) (by simpa using hl) ih

end ClassStub.Text.Units
