import Mathlib.Algebra.Group.Nat.Defs
import ClassStub.Text.Utf8
import ClassStub.Proofs.Text.ModifiedUtf8

/-!
# Groups of bytes

Decoding modified UTF-8 cuts bytes into groups of one, two or three. `ModifiedUtf8.IsGroup` says what the groups are
by the range of each byte, and `ModifiedUtf8.groupUnit` puts the unit of a group together from the bits of its bytes.
The first byte of a group tells its length, so bytes can be cut into groups in one way at most. Bytes that are each a
group of their own are also UTF-8, and mean the same text.
-/

namespace ClassStub.Text

/-- An encoded text is decoded to itself. -/
lemma Utf8.decode?_encode (s : String) : decode? (encode s) = some s := by
  have hbytes : (⟨(encode s).toArray⟩ : ByteArray) = s.toByteArray := by
    rw [← String.utf8Encode_toList, List.utf8Encode]
    exact ByteArray.ext List.data_toByteArray.symm
  rw [decode?, hbytes, String.fromUTF8?, dif_pos s.isValidUTF8]
  rfl

namespace ModifiedUtf8

/-- A group of bytes: one from `01` to `7F`, or a lead byte with one or two bytes from `80` to `BF`. -/
inductive IsGroup : Bytes → Prop where
  | one {a : UInt8} : 0x01 ≤ a → a ≤ 0x7F → IsGroup [a]
  | two {a b : UInt8} : 0xC0 ≤ a → a ≤ 0xDF → 0x80 ≤ b → b ≤ 0xBF → IsGroup [a, b]
  | three {a b c : UInt8} : 0xE0 ≤ a → a ≤ 0xEF → 0x80 ≤ b → b ≤ 0xBF → 0x80 ≤ c → c ≤ 0xBF → IsGroup [a, b, c]

/-- The unit of a group: the low bits of its bytes, one after the other. -/
def groupUnit : Bytes → UInt16
  | [a] => a.toUInt16
  | [a, b] => (a &&& 0x1F).toUInt16 <<< 6 ||| (b &&& 0x3F).toUInt16
  | [a, b, c] => (a &&& 0x0F).toUInt16 <<< 12 ||| (b &&& 0x3F).toUInt16 <<< 6 ||| (c &&& 0x3F).toUInt16
  | _ => 0

/-- The bytes are cut into groups. -/
structure IsCut (b : Bytes) (groups : List Bytes) : Prop where
  flatten : groups.flatten = b
  isGroup : ∀ group ∈ groups, IsGroup group

/-- Decoding with a shortcut: bytes that are each a group of their own are taken for UTF-8. -/
def decodeWithShortcut (b : Bytes) : Option String :=
  if b.all isSingle then Utf8.decode? b else decode b

/-! ### The bits of a unit -/

/-- Masking the low bits of a byte leaves it modulo their power of two. -/
lemma toNat_and_mask (a mask : UInt8) {k : Nat} (hmask : mask.toNat = 2 ^ k - 1) :
    (a &&& mask).toUInt16.toNat = a.toNat % 2 ^ k := by
  rw [UInt8.toNat_toUInt16, UInt8.toNat_and, hmask, Nat.and_two_pow_sub_one_eq_mod]

/-- Bits are put behind others that were moved out of their way. -/
lemma toNat_shiftLeft_or {high low shift : UInt16} {k : Nat} (hshift : shift.toNat = k) (hk : k < 16)
    (hlow : low.toNat < 2 ^ k) (hhigh : high.toNat * 2 ^ k < 2 ^ 16) :
    (high <<< shift ||| low).toNat = high.toNat * 2 ^ k + low.toNat := by
  rw [UInt16.toNat_or, UInt16.toNat_shiftLeft, hshift, Nat.mod_eq_of_lt hk, Nat.shiftLeft_eq, Nat.mod_eq_of_lt hhigh,
    ← Nat.shiftLeft_eq, ← Nat.shiftLeft_add_eq_or_of_lt hlow]

/-- The unit of two bytes is what the decoder makes of them. -/
lemma groupUnit_two (a b : UInt8) : groupUnit [a, b] = unitTwo a b := by
  have ha := toNat_and_mask a 0x1F (k := 5) rfl
  have hb := toNat_and_mask b 0x3F (k := 6) rfl
  rw [← UInt16.toNat_inj, toNat_unitTwo, groupUnit,
    toNat_shiftLeft_or (k := 6) rfl (by decide) (by omega) (by omega)]
  omega

/-- The unit of three bytes is what the decoder makes of them. -/
lemma groupUnit_three (a b c : UInt8) : groupUnit [a, b, c] = unitThree a b c := by
  have ha := toNat_and_mask a 0x0F (k := 4) rfl
  have hb := toNat_and_mask b 0x3F (k := 6) rfl
  have hc := toNat_and_mask c 0x3F (k := 6) rfl
  have hlow : ((b &&& 0x3F).toUInt16 <<< 6 ||| (c &&& 0x3F).toUInt16).toNat = b.toNat % 64 * 64 + c.toNat % 64 := by
    rw [toNat_shiftLeft_or (k := 6) rfl (by decide) (by omega) (by omega)]
    omega
  rw [← UInt16.toNat_inj, toNat_unitThree, groupUnit, UInt16.or_assoc,
    toNat_shiftLeft_or (k := 12) rfl (by decide) (by omega) (by omega)]
  omega

/-! ### Groups and forms -/

/-- A byte by itself is a character of ASCII other than zero. -/
lemma isSingle_iff_le {a : UInt8} : isSingle a = true ↔ 0x01 ≤ a ∧ a ≤ 0x7F := by
  rw [isSingle_iff, UInt8.le_iff_toNat_le, UInt8.le_iff_toNat_le, Nat.lt_succ_iff]
  rfl

/-- The first of two bytes has three high bits for its mark. -/
lemma isLeadTwo_iff_le {a : UInt8} : isLeadTwo a = true ↔ 0xC0 ≤ a ∧ a ≤ 0xDF := by
  rw [isLeadTwo_iff, UInt8.le_iff_toNat_le, UInt8.le_iff_toNat_le, Nat.lt_succ_iff]
  rfl

/-- The first of three bytes has four high bits for its mark. -/
lemma isLeadThree_iff_le {a : UInt8} : isLeadThree a = true ↔ 0xE0 ≤ a ∧ a ≤ 0xEF := by
  rw [isLeadThree_iff, UInt8.le_iff_toNat_le, UInt8.le_iff_toNat_le, Nat.lt_succ_iff]
  rfl

/-- A byte behind the first one has two high bits for its mark. -/
lemma isContinuation_iff_le {a : UInt8} : isContinuation a = true ↔ 0x80 ≤ a ∧ a ≤ 0xBF := by
  rw [isContinuation_iff, UInt8.le_iff_toNat_le, UInt8.le_iff_toNat_le, Nat.lt_succ_iff]
  rfl

/-- The groups are the forms of units, and the unit of a group is the one that it is a form of. -/
lemma form_iff {group : Bytes} {u : UInt16} : Form group u ↔ IsGroup group ∧ u = groupUnit group := by
  constructor
  · intro h
    cases h with
    | @one a ha =>
      obtain ⟨hlow, hhigh⟩ := isSingle_iff_le.1 ha
      exact ⟨.one hlow hhigh, UInt16.toNat_inj.1 (by simp [groupUnit])⟩
    | two ha hb =>
      obtain ⟨hlow, hhigh⟩ := isLeadTwo_iff_le.1 ha
      obtain ⟨hblow, hbhigh⟩ := isContinuation_iff_le.1 hb
      exact ⟨.two hlow hhigh hblow hbhigh, (groupUnit_two _ _).symm⟩
    | three ha hb hc =>
      obtain ⟨hlow, hhigh⟩ := isLeadThree_iff_le.1 ha
      obtain ⟨hblow, hbhigh⟩ := isContinuation_iff_le.1 hb
      obtain ⟨hclow, hchigh⟩ := isContinuation_iff_le.1 hc
      exact ⟨.three hlow hhigh hblow hbhigh hclow hchigh, (groupUnit_three _ _ _).symm⟩
  · rintro ⟨h, rfl⟩
    cases h with
    | @one a hlow hhigh =>
      have hunit : UInt16.ofNat a.toNat = groupUnit [a] := UInt16.toNat_inj.1 (by simp [groupUnit])
      exact hunit ▸ .one (isSingle_iff_le.2 ⟨hlow, hhigh⟩)
    | @two a b hlow hhigh hblow hbhigh =>
      rw [groupUnit_two]
      exact .two (isLeadTwo_iff_le.2 ⟨hlow, hhigh⟩) (isContinuation_iff_le.2 ⟨hblow, hbhigh⟩)
    | @three a b c hlow hhigh hblow hbhigh hclow hchigh =>
      rw [groupUnit_three]
      exact .three (isLeadThree_iff_le.2 ⟨hlow, hhigh⟩) (isContinuation_iff_le.2 ⟨hblow, hbhigh⟩)
        (isContinuation_iff_le.2 ⟨hclow, hchigh⟩)

/-- Forms of units are groups with the units of these. -/
lemma forall₂_form_iff {groups : List Bytes} {us : List UInt16} :
    List.Forall₂ Form groups us ↔ (∀ group ∈ groups, IsGroup group) ∧ us = groups.map groupUnit := by
  induction groups generalizing us with
  | nil => simp
  | cons group groups ih =>
    cases us with
    | nil => simp
    | cons u us =>
      simp only [List.forall₂_cons, form_iff, ih, List.forall_mem_cons, List.map_cons, List.cons.injEq]
      tauto

/-- Bytes have the units of the groups that they are cut into, and none where there is no cut. -/
lemma units_eq_some_iff_isCut {b : Bytes} {us : List UInt16} :
    units b = some us ↔ ∃ groups, IsCut b groups ∧ us = groups.map groupUnit := by
  rw [units_eq_some_iff]
  simp only [forall₂_form_iff]
  constructor
  · rintro ⟨groups, hflatten, hgroups, hus⟩
    exact ⟨groups, ⟨hflatten.symm, hgroups⟩, hus⟩
  · rintro ⟨groups, ⟨hflatten, hgroups⟩, hus⟩
    exact ⟨groups, hflatten.symm, hgroups, hus⟩

/-! ### One cut at most -/

/-- How long the group is that a byte begins. -/
def leadLength (a : UInt8) : Nat := if a ≤ 0x7F then 1 else if a ≤ 0xDF then 2 else 3

/-- The first byte of a group tells its length. -/
lemma IsGroup.exists_lead {group : Bytes} (h : IsGroup group) :
    ∃ a rest, group = a :: rest ∧ group.length = leadLength a := by
  cases h with
  | @one a hlow hhigh =>
    refine ⟨a, [], rfl, ?_⟩
    rw [leadLength, if_pos hhigh]
    rfl
  | @two a b hlow hhigh _ _ =>
    have hnot : ¬ a ≤ 0x7F := by grind
    refine ⟨a, [b], rfl, ?_⟩
    rw [leadLength, if_neg hnot, if_pos hhigh]
    rfl
  | @three a b c hlow hhigh _ _ _ _ =>
    have hnot : ¬ a ≤ 0x7F := by grind
    have hnot' : ¬ a ≤ 0xDF := by grind
    refine ⟨a, [b, c], rfl, ?_⟩
    rw [leadLength, if_neg hnot, if_neg hnot']
    rfl

/-- Where groups begin two texts of bytes that are the same, the groups are the same, and so is what comes behind. -/
lemma IsGroup.append_inj {group group' rest rest' : Bytes} (h : IsGroup group) (h' : IsGroup group')
    (heq : group ++ rest = group' ++ rest') : group = group' ∧ rest = rest' := by
  obtain ⟨a, others, rfl, hlen⟩ := h.exists_lead
  obtain ⟨a', others', rfl, hlen'⟩ := h'.exists_lead
  obtain rfl : a = a' := (List.cons.inj heq).1
  exact List.append_inj heq (hlen.trans hlen'.symm)

/-- What begins with a group is not empty. -/
lemma IsGroup.append_ne_nil {group : Bytes} (h : IsGroup group) (rest : Bytes) : group ++ rest ≠ [] := by
  obtain ⟨a, others, rfl, _⟩ := h.exists_lead
  exact List.cons_ne_nil _ _

/-- Bytes are cut into groups in one way. -/
lemma IsCut.unique {b : Bytes} {groups groups' : List Bytes} (h : IsCut b groups) (h' : IsCut b groups') :
    groups = groups' := by
  obtain ⟨rfl, hall⟩ := h
  obtain ⟨heq, hall'⟩ := h'
  induction groups generalizing groups' with
  | nil =>
    cases groups' with
    | nil => rfl
    | cons group' groups' => exact absurd heq ((hall' group' List.mem_cons_self).append_ne_nil _)
  | cons group groups ih =>
    obtain ⟨hgroup, hgroups⟩ := List.forall_mem_cons.1 hall
    cases groups' with
    | nil => exact absurd heq.symm (hgroup.append_ne_nil _)
    | cons group' groups' =>
      obtain ⟨hgroup', hgroups'⟩ := List.forall_mem_cons.1 hall'
      obtain ⟨rfl, hrest⟩ := hgroup.append_inj hgroup' heq.symm
      rw [ih hgroups hrest.symm hgroups']

/-! ### Texts of groups -/

section

variable {b : Bytes}

/-- Bytes are decoded exactly if they can be cut into groups, and the text is what the units of these read. -/
lemma decode_eq_some_iff {text : String} :
    decode b = some text ↔ ∃ groups, IsCut b groups ∧ Units.Lossy (groups.map groupUnit) text.toList := by
  rw [decode, Option.map_eq_some_iff]
  constructor
  · rintro ⟨us, hus, rfl⟩
    obtain ⟨groups, hcut, rfl⟩ := units_eq_some_iff_isCut.1 hus
    rw [String.toList_ofList]
    exact ⟨groups, hcut, Units.lossy_decode _⟩
  · rintro ⟨groups, hcut, htext⟩
    refine ⟨groups.map groupUnit, units_eq_some_iff_isCut.2 ⟨groups, hcut, rfl⟩, ?_⟩
    rw [← htext.eq_decode, String.ofList_toList]

/-- Whatever is cut into groups has a text. -/
lemma exists_decode_iff : (∃ text, decode b = some text) ↔ ∃ groups, IsCut b groups := by
  constructor
  · rintro ⟨text, htext⟩
    obtain ⟨groups, hcut, _⟩ := decode_eq_some_iff.1 htext
    exact ⟨groups, hcut⟩
  · rintro ⟨groups, hcut⟩
    refine ⟨String.ofList (Units.decode (groups.map groupUnit)), decode_eq_some_iff.2 ⟨groups, hcut, ?_⟩⟩
    rw [String.toList_ofList]
    exact Units.lossy_decode _

/-- Bytes are not decoded exactly if they cannot be cut into groups. -/
lemma decode_eq_none_iff : decode b = none ↔ ¬ ∃ groups, IsCut b groups := by
  rw [← exists_decode_iff, ← Option.isSome_iff_exists, Option.not_isSome_iff_eq_none]

end

/-! ### The shortcut -/

/-- What a byte below `80` says by itself, as a unit and as a character. -/
lemma units_of_singles {b : Bytes} (h : ∀ a ∈ b, isSingle a = true) :
    units b = some (b.map fun a => UInt16.ofNat a.toNat) := by
  induction b with
  | nil => rfl
  | cons a rest ih =>
    obtain ⟨ha, hrest⟩ := List.forall_mem_cons.1 h
    have happend := units_append (.one ha) rest
    rw [List.singleton_append] at happend
    rw [happend, ih hrest, Option.map_some, List.map_cons]

/-- Bytes by themselves are read as the characters that they are. -/
lemma unitsDecode_of_singles {b : Bytes} (h : ∀ a ∈ b, isSingle a = true) :
    Units.decode (b.map fun a => UInt16.ofNat a.toNat) = b.map fun a => Char.ofNat a.toNat := by
  induction b with
  | nil => rfl
  | cons a rest ih =>
    obtain ⟨ha, hrest⟩ := List.forall_mem_cons.1 h
    rw [isSingle_iff] at ha
    have hunit : (UInt16.ofNat a.toNat).toNat = a.toNat := UInt16.toNat_ofNat_of_lt' (by simp only [UInt16.size]; omega)
    have hhigh : Units.isHigh (UInt16.ofNat a.toNat) = false := by
      rw [← Bool.not_eq_true, Units.isHigh_iff]
      omega
    have hlow : Units.isLow (UInt16.ofNat a.toNat) = false := by
      rw [← Bool.not_eq_true, Units.isLow_iff]
      omega
    rw [List.map_cons, Units.decode_plain hhigh hlow, hunit, ih hrest, List.map_cons]

/-- The characters of bytes by themselves are encoded by these bytes. -/
lemma encode_of_singles {b : Bytes} (h : ∀ a ∈ b, isSingle a = true) :
    Utf8.encode (String.ofList (b.map fun a => Char.ofNat a.toNat)) = b := by
  rw [Utf8.encode, String.toList_ofList]
  induction b with
  | nil => rfl
  | cons a rest ih =>
    obtain ⟨ha, hrest⟩ := List.forall_mem_cons.1 h
    rw [isSingle_iff] at ha
    have hchar : (Char.ofNat a.toNat).val.toNat = a.toNat := Units.toNat_ofNat (by omega)
    have hbytes : Utf8.encodeChar (Char.ofNat a.toNat) = [a] := by
      rw [Utf8.encodeChar, String.utf8EncodeChar, hchar, if_pos (by omega), UInt8.ofNat_toNat]
    rw [List.map_cons, List.flatMap_cons, hbytes, ih hrest, List.singleton_append]

/-- Bytes that are each a group of their own are the UTF-8 bytes of the text that they decode to. -/
lemma exists_text_of_singles {b : Bytes} (h : ∀ a ∈ b, isSingle a = true) :
    ∃ text, Utf8.decode? b = some text ∧ decode b = some text := by
  refine ⟨String.ofList (b.map fun a => Char.ofNat a.toNat), ?_, ?_⟩
  · have hdecode := Utf8.decode?_encode (String.ofList (b.map fun a => Char.ofNat a.toNat))
    rwa [encode_of_singles h] at hdecode
  · rw [decode, units_of_singles h, Option.map_some, unitsDecode_of_singles h]

/-- The shortcut for bytes by themselves changes nothing. -/
lemma decodeWithShortcut_eq (b : Bytes) : decodeWithShortcut b = decode b := by
  rw [decodeWithShortcut]
  split
  · rename_i h
    obtain ⟨text, hutf8, hdecode⟩ := exists_text_of_singles (List.all_eq_true.1 h)
    rw [hutf8, hdecode]
  · rfl

end ModifiedUtf8

end ClassStub.Text
