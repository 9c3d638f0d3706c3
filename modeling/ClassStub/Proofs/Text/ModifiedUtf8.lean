import Mathlib.Data.List.Forall2
import ClassStub.Text.ModifiedUtf8
import ClassStub.Proofs.Text.Units

/-!
# Forms of units in modified UTF-8

A unit is written in one, two or three bytes: `ModifiedUtf8.Form` lists the forms that decoding accepts, and some
units have more than one. `encodeUnit` writes the one shortest form of each unit. So decoding gives every text back
from its encoding, and what decodes is the encoding of its text exactly when each unit has its shortest form and no
surrogate stands alone (`Canonical`).
-/

namespace ClassStub.Text.ModifiedUtf8

/-- The bytes are a form of the unit. -/
inductive Form : Bytes → UInt16 → Prop where
  | one {a} : isSingle a = true → Form [a] (UInt16.ofNat a.toNat)
  | two {a b} : isLeadTwo a = true → isContinuation b = true → Form [a, b] (unitTwo a b)
  | three {a b c} : isLeadThree a = true → isContinuation b = true → isContinuation c = true →
      Form [a, b, c] (unitThree a b c)

/-- The bytes are a form of the unit, and no form of it is shorter. -/
def IsShortest (form : Bytes) (u : UInt16) : Prop :=
  Form form u ∧ ∀ form', Form form' u → form.length ≤ form'.length

/-- The bytes are shortest forms of units among which every surrogate belongs to a pair. -/
def Canonical (b : Bytes) : Prop :=
  ∃ forms us, b = forms.flatten ∧ List.Forall₂ IsShortest forms us ∧ Units.Paired us

/-- A byte by itself is one below 128 and not zero. -/
lemma isSingle_iff {b : UInt8} : isSingle b = true ↔ 1 ≤ b.toNat ∧ b.toNat < 0x80 := by
  simp [isSingle]

/-- The first of two bytes is one from 192 on. -/
lemma isLeadTwo_iff {b : UInt8} : isLeadTwo b = true ↔ 0xC0 ≤ b.toNat ∧ b.toNat < 0xE0 := by
  simp [isLeadTwo]

/-- The first of three bytes is one from 224 on. -/
lemma isLeadThree_iff {b : UInt8} : isLeadThree b = true ↔ 0xE0 ≤ b.toNat ∧ b.toNat < 0xF0 := by
  simp [isLeadThree]

/-- A byte behind the first one is one from 128 on. -/
lemma isContinuation_iff {b : UInt8} : isContinuation b = true ↔ 0x80 ≤ b.toNat ∧ b.toNat < 0xC0 := by
  simp [isContinuation]

/-- The first of two bytes is none by itself. -/
lemma isLeadTwo_not_single {b : UInt8} (h : isLeadTwo b = true) : isSingle b = false := by
  rw [isLeadTwo_iff] at h
  rw [← Bool.not_eq_true, isSingle_iff]
  omega

/-- The first of three bytes is none by itself. -/
lemma isLeadThree_not_single {b : UInt8} (h : isLeadThree b = true) : isSingle b = false := by
  rw [isLeadThree_iff] at h
  rw [← Bool.not_eq_true, isSingle_iff]
  omega

/-- The first of three bytes is not the first of two. -/
lemma isLeadThree_not_leadTwo {b : UInt8} (h : isLeadThree b = true) : isLeadTwo b = false := by
  rw [isLeadThree_iff] at h
  rw [← Bool.not_eq_true, isLeadTwo_iff]
  omega

/-! ### Cutting bytes into forms -/

/-- A form in front is read as its unit. -/
lemma units_append {form : Bytes} {u : UInt16} (h : Form form u) (rest : Bytes) :
    units (form ++ rest) = (units rest).map (u :: ·) := by
  cases h with
  | one ha =>
    rw [List.singleton_append, units.eq_def]
    simp only [ha, if_true]
  | two ha hb =>
    rw [List.cons_append, List.singleton_append, units.eq_def]
    simp only [isLeadTwo_not_single ha, ha, hb, Bool.and_self, Bool.false_eq_true, if_true, if_false]
  | three ha hb hc =>
    rw [List.cons_append, List.cons_append, List.singleton_append, units.eq_def]
    simp only [isLeadThree_not_single ha, isLeadThree_not_leadTwo ha, ha, hb, hc, Bool.and_self, Bool.false_and,
      Bool.false_eq_true, if_true, if_false]

/-- Forms in a row are read as their units. -/
lemma units_flatten {forms : List Bytes} {us : List UInt16} (h : List.Forall₂ Form forms us) :
    units forms.flatten = some us := by
  induction h with
  | nil => rfl
  | cons hform _ ih => rw [List.flatten_cons, units_append hform, ih, Option.map_some]

/-- A form in front of a row of forms is one more in the row. -/
lemma exists_forms_append {form rest : Bytes} {u : UInt16} {us : List UInt16} (hform : Form form u)
    (hrest : ∀ {us}, units rest = some us → ∃ forms, rest = forms.flatten ∧ List.Forall₂ Form forms us)
    (h : (units rest).map (u :: ·) = some us) :
    ∃ forms, form ++ rest = forms.flatten ∧ List.Forall₂ Form forms us := by
  obtain ⟨others, hothers, rfl⟩ := Option.map_eq_some_iff.1 h
  obtain ⟨forms, rfl, hforms⟩ := hrest hothers
  exact ⟨form :: forms, List.flatten_cons.symm, .cons hform hforms⟩

/-- Whatever is read as units is a row of their forms. -/
lemma exists_forms {b : Bytes} {us : List UInt16} (h : units b = some us) :
    ∃ forms, b = forms.flatten ∧ List.Forall₂ Form forms us := by
  fun_induction units b generalizing us with
  | case1 => cases h; exact ⟨[], rfl, .nil⟩
  | case2 a rest ha ih => exact exists_forms_append (.one ha) ih h
  | case3 => cases h
  | case4 a ha b rest hab ih =>
    rw [Bool.and_eq_true] at hab
    exact exists_forms_append (.two hab.1 hab.2) ih h
  | case5 => cases h
  | case6 a ha b hab c rest habc ih =>
    simp only [Bool.and_eq_true] at habc
    exact exists_forms_append (.three habc.1.1 habc.1.2 habc.2) ih h
  | case7 => cases h

/-- Bytes are accepted exactly when they are a row of forms, and then they have the units of these. -/
lemma units_eq_some_iff {b : Bytes} {us : List UInt16} :
    units b = some us ↔ ∃ forms, b = forms.flatten ∧ List.Forall₂ Form forms us := by
  constructor
  · exact exists_forms
  · rintro ⟨forms, rfl, hforms⟩
    exact units_flatten hforms

/-! ### The shortest form of a unit -/

/-- A unit of two bytes has five bits of the first and six of the second. -/
lemma toNat_unitTwo (a b : UInt8) : (unitTwo a b).toNat = a.toNat % 0x20 * 0x40 + b.toNat % 0x40 :=
  UInt16.toNat_ofNat_of_lt' (by simp only [UInt16.size]; omega)

/-- A unit of three bytes has four bits of the first and six of each of the others. -/
lemma toNat_unitThree (a b c : UInt8) :
    (unitThree a b c).toNat = a.toNat % 0x10 * 0x1000 + b.toNat % 0x40 * 0x40 + c.toNat % 0x40 :=
  UInt16.toNat_ofNat_of_lt' (by simp only [UInt16.size]; omega)

/-- A unit has at most one form of each length: its bits fill the free bits of the bytes. -/
lemma Form.eq_bytes {form : Bytes} {u : UInt16} (h : Form form u) :
    (form = [UInt8.ofNat u.toNat] ∧ 1 ≤ u.toNat ∧ u.toNat < 0x80) ∨
      (form = [UInt8.ofNat (0xC0 + u.toNat / 0x40), UInt8.ofNat (0x80 + u.toNat % 0x40)] ∧ u.toNat < 0x800) ∨
      form = [UInt8.ofNat (0xE0 + u.toNat / 0x1000), UInt8.ofNat (0x80 + u.toNat / 0x40 % 0x40),
        UInt8.ofNat (0x80 + u.toNat % 0x40)] := by
  have hbyte : ∀ {b : UInt8} {n : Nat}, n = b.toNat → UInt8.ofNat n = b := by
    rintro b n rfl
    exact UInt8.ofNat_toNat
  cases h with
  | @one a ha =>
    have hu : (UInt16.ofNat a.toNat).toNat = a.toNat :=
      UInt16.toNat_ofNat_of_lt' (Nat.lt_trans a.toNat_lt (by decide))
    rw [isSingle_iff] at ha
    rw [hu, UInt8.ofNat_toNat]
    exact .inl ⟨rfl, ha⟩
  | @two a b ha hb =>
    rw [isLeadTwo_iff] at ha
    rw [isContinuation_iff] at hb
    refine .inr (.inl ?_)
    rw [toNat_unitTwo, hbyte (b := a) (by omega), hbyte (b := b) (by omega)]
    exact ⟨rfl, by omega⟩
  | @three a b c ha hb hc =>
    rw [isLeadThree_iff] at ha
    rw [isContinuation_iff] at hb hc
    refine .inr (.inr ?_)
    rw [toNat_unitThree, hbyte (b := a) (by omega), hbyte (b := b) (by omega), hbyte (b := c) (by omega)]

/-- A unit is encoded by one of its forms. -/
lemma form_encodeUnit (u : UInt16) : Form (encodeUnit u) u := by
  have hlt := u.toNat_lt
  have hbyte : ∀ {n : Nat}, n < 0x100 → (UInt8.ofNat n).toNat = n := UInt8.toNat_ofNat_of_lt'
  have hcast : ∀ {form : Bytes} {v : UInt16}, Form form v → v.toNat = u.toNat → Form form u := by
    intro form v hform hv
    exact UInt16.toNat_inj.1 hv ▸ hform
  rw [encodeUnit]
  split
  · rename_i hu
    have ha := hbyte (n := u.toNat) (by omega)
    refine hcast (.one (isSingle_iff.2 ?_)) ?_
    · rw [ha]
      exact hu
    · rw [ha, UInt16.ofNat_toNat]
  · split
    · have ha := hbyte (n := 0xC0 + u.toNat / 0x40) (by omega)
      have hb := hbyte (n := 0x80 + u.toNat % 0x40) (by omega)
      refine hcast (.two (isLeadTwo_iff.2 ?_) (isContinuation_iff.2 ?_)) ?_
      · omega
      · omega
      · rw [toNat_unitTwo]
        omega
    · have ha := hbyte (n := 0xE0 + u.toNat / 0x1000) (by omega)
      have hb := hbyte (n := 0x80 + u.toNat / 0x40 % 0x40) (by omega)
      have hc := hbyte (n := 0x80 + u.toNat % 0x40) (by omega)
      refine hcast (.three (isLeadThree_iff.2 ?_) (isContinuation_iff.2 ?_) (isContinuation_iff.2 ?_)) ?_
      · omega
      · omega
      · omega
      · rw [toNat_unitThree]
        omega

/-- The shortest form is the one that encoding writes. -/
lemma isShortest_iff {form : Bytes} {u : UInt16} : IsShortest form u ↔ form = encodeUnit u := by
  constructor
  · intro h
    obtain ⟨hform, hmin⟩ := h
    have hle := hmin _ (form_encodeUnit u)
    rw [encodeUnit] at hle ⊢
    -- A longer form than the one that is written cannot be the shortest.
    rcases hform.eq_bytes with ⟨rfl, hu⟩ | ⟨rfl, hu⟩ | rfl
    · rw [if_pos hu]
    · split at hle
      · simp at hle
      · rw [if_neg ‹_›, if_pos hu]
    · split at hle
      · simp at hle
      · split at hle
        · simp at hle
        · rw [if_neg ‹_›, if_neg ‹_›]
  · rintro rfl
    refine ⟨form_encodeUnit u, ?_⟩
    intro form' hform'
    rw [encodeUnit]
    rcases hform'.eq_bytes with ⟨rfl, hu⟩ | ⟨rfl, hu⟩ | rfl
    · exact Nat.le_of_eq (by rw [if_pos hu])
    · split
      · simp
      · exact Nat.le_refl _
    · split
      · simp
      · split <;> simp

/-! ### Texts -/

/-- A text is encoded by the forms of its units, one after the other. -/
lemma encode_eq_flatMap (s : String) : encode s = (s.toList.flatMap Units.ofChar).flatMap encodeUnit :=
  List.flatMap_assoc.symm

/-- The shortest forms of units are their encodings. -/
lemma forall₂_isShortest_iff {forms : List Bytes} {us : List UInt16} :
    List.Forall₂ IsShortest forms us ↔ forms = us.map encodeUnit := by
  induction forms generalizing us with
  | nil => cases us <;> simp
  | cons form forms ih => cases us <;> simp [ih, isShortest_iff]

/-- Canonical bytes are the encodings of paired units. -/
lemma canonical_iff {b : Bytes} : Canonical b ↔ ∃ us, b = us.flatMap encodeUnit ∧ Units.Paired us := by
  simp only [Canonical, forall₂_isShortest_iff, List.flatMap]
  exact ⟨fun ⟨_, us, hb, hforms, hus⟩ => ⟨us, hforms ▸ hb, hus⟩, fun ⟨us, hb, hus⟩ => ⟨_, us, hb, rfl, hus⟩⟩

/-- Encoded units are read back. -/
lemma units_flatMap_encodeUnit (us : List UInt16) : units (us.flatMap encodeUnit) = some us := by
  refine units_eq_some_iff.2 ⟨us.map encodeUnit, List.flatMap_def, ?_⟩
  rw [List.forall₂_map_left_iff, List.forall₂_same]
  exact fun u _ => form_encodeUnit u

/-- Decoding gives every text back from its encoding. What decodes is the encoding of its text exactly when each
unit has its shortest form, which for zero is `C0 80`, and every surrogate belongs to a pair. -/
theorem decode_inverts_encode :
    (∀ s : String, decode (encode s) = some s) ∧
      (∀ (b : Bytes) (s : String), decode b = some s → (encode s = b ↔ Canonical b)) ∧
      ∀ form : Bytes, IsShortest form 0 ↔ form = [0xC0, 0x80] := by
  refine ⟨?_, ?_, fun form => isShortest_iff⟩
  · intro s
    rw [decode, encode_eq_flatMap, units_flatMap_encodeUnit, Option.map_some, Units.decode_flatMap_ofChar,
      String.ofList_toList]
  · intro b s h
    obtain ⟨us, hus, rfl⟩ := Option.map_eq_some_iff.1 h
    rw [encode_eq_flatMap, String.toList_ofList, canonical_iff]
    constructor
    · rintro rfl
      exact ⟨_, rfl, Units.paired_flatMap_ofChar _⟩
    · rintro ⟨us', rfl, hpaired⟩
      rw [units_flatMap_encodeUnit] at hus
      cases hus
      rw [hpaired.flatMap_ofChar_decode]

/-- The letter `A` in two bytes decodes, but is not canonical. -/
theorem not_canonical_of_overlong :
    decode [0xC1, 0x81] = some "A" ∧ encode "A" ≠ [0xC1, 0x81] ∧ ¬ Canonical [0xC1, 0x81] := by
  have hdecode : decode [0xC1, 0x81] = some "A" := by decide
  have hencode : encode "A" ≠ [0xC1, 0x81] := by decide
  exact ⟨hdecode, hencode, fun h => hencode ((decode_inverts_encode.2.1 _ _ hdecode).2 h)⟩

end ClassStub.Text.ModifiedUtf8
