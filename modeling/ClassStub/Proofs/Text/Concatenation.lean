import ClassStub.Proofs.Text.Groups

/-!
# Texts of joined bytes

Bytes that decode end at the end of a unit, so that whatever is put behind them is cut into units as it is by itself.
The texts are then joined as well, except where a high surrogate meets a low one (`ModifiedUtf8.Meet`): apart, each of
the two is read as a replacement character, and together they are a pair.
-/

namespace ClassStub.Text

namespace Units

variable {us vs : List UInt16} {cs ds : List Char} {high low : UInt16}

/-- No pair is made where units are joined. -/
def Apart (us vs : List UInt16) : Prop :=
  ∀ high ∈ us.getLast?, ∀ low ∈ vs.head?, isHigh high = true → isLow low = false

/-- Where units are apart from others, so are those behind the first one. -/
lemma Apart.tail {u : UInt16} (h : Apart (u :: us) vs) : Apart us vs :=
  fun high hhigh => h high (List.mem_getLast?_cons hhigh)

/-- Units that are joined without making a pair read as they do by themselves. -/
lemma Lossy.append (hus : Lossy us cs) (hvs : Lossy vs ds) (hapart : Apart us vs) :
    Lossy (us ++ vs) (cs ++ ds) := by
  induction hus with
  | nil => exact hvs
  | plain hh hl _ ih => exact .plain hh hl (ih hapart.tail)
  | pair hu hv _ ih => exact .pair hu hv (ih hapart.tail.tail)
  | @loneHigh u rest cs hu hrest _ ih =>
    refine .loneHigh hu ?_ (ih hapart.tail)
    intro v hv
    cases rest with
    | nil => exact hapart u rfl v hv hu
    | cons first others => exact hrest v hv
  | loneLow hu _ ih => exact .loneLow hu (ih hapart.tail)

/-- Units that are apart are decoded one after the other. -/
lemma decode_append (h : Apart us vs) : decode (us ++ vs) = decode us ++ decode vs :=
  ((lossy_decode us).append (lossy_decode vs) h).eq_decode.symm

/-- In front of a high surrogate, units are always apart. -/
lemma apart_cons_of_isHigh (hhigh : isHigh high = true) (us : List UInt16) : Apart us (high :: vs) := by
  intro u _ v hv _
  cases hv
  rw [← Bool.not_eq_true]
  exact fun hlow => Bool.noConfusion ((isHigh_of_isLow hlow).symm.trans hhigh)

/-- A high surrogate at the end is read as a replacement character. -/
lemma decode_concat_high (hhigh : isHigh high = true) (us : List UInt16) :
    decode (us ++ [high]) = decode us ++ [replacement] := by
  rw [decode_append (apart_cons_of_isHigh hhigh us), decode_loneHigh hhigh (by simp), decode]

/-- A high and a low surrogate that meet are read as the character of the pair. -/
lemma decode_append_pair (hhigh : isHigh high = true) (hlow : isLow low = true) (us vs : List UInt16) :
    decode (us ++ high :: low :: vs) = decode us ++ combine high low :: decode vs := by
  rw [decode_append (apart_cons_of_isHigh hhigh us), decode_pair hhigh hlow]

end Units

namespace ModifiedUtf8

variable {a b : Bytes} {us vs : List UInt16}

/-- The last unit of the bytes is a high surrogate, and the first unit of those behind them is a low one. -/
def Meet (a b : Bytes) (high low : UInt16) : Prop :=
  ∃ us vs, units a = some (us ++ [high]) ∧ units b = some (low :: vs) ∧
    Units.isHigh high = true ∧ Units.isLow low = true

/-- Bytes behind others that are accepted have the units that they have by themselves. -/
lemma units_append_of_eq_some (h : units a = some us) (b : Bytes) : units (a ++ b) = (units b).map (us ++ ·) := by
  obtain ⟨forms, rfl, hforms⟩ := units_eq_some_iff.1 h
  clear h
  induction hforms with
  | nil => simp
  | cons hform _ ih =>
    rw [List.flatten_cons, List.append_assoc, units_append hform, ih, Option.map_map]
    rfl

/-- Units are apart exactly if no high and low surrogate meet where the bytes are joined. -/
lemma apart_iff_not_meet (ha : units a = some us) (hb : units b = some vs) :
    Units.Apart us vs ↔ ¬ ∃ high low, Meet a b high low := by
  constructor
  · rintro hapart ⟨high, low, us', vs', ha', hb', hhigh, hlow⟩
    cases ha.symm.trans ha'
    cases hb.symm.trans hb'
    have hnot : Units.isLow low = false := hapart high (by simp) low (by simp) hhigh
    exact Bool.noConfusion (hlow.symm.trans hnot)
  · intro hmeet high hend low hstart hhigh
    obtain ⟨front, rfl⟩ := List.getLast?_eq_some_iff.1 hend
    obtain ⟨back, rfl⟩ := List.head?_eq_some_iff.1 hstart
    rw [← Bool.not_eq_true]
    exact fun hlow => hmeet ⟨high, low, front, back, ha, hb, hhigh, hlow⟩

/-- Bytes behind others that are accepted decode exactly if they do by themselves. -/
lemma exists_decode_append_iff (ha : units a = some us) (b : Bytes) :
    (∃ text, decode (a ++ b) = some text) ↔ ∃ text, decode b = some text := by
  simp only [decode, units_append_of_eq_some ha, Option.map_map, Option.map_eq_some_iff, Function.comp_apply]
  constructor
  · rintro ⟨_, vs, hvs, -⟩
    exact ⟨_, vs, hvs, rfl⟩
  · rintro ⟨_, vs, hvs, -⟩
    exact ⟨_, vs, hvs, rfl⟩

/-- Where bytes are joined without a meeting, their texts are joined. -/
lemma decode_append_of_apart (ha : units a = some us) (hb : units b = some vs) (h : Units.Apart us vs) :
    decode (a ++ b) = some (String.ofList (Units.decode us) ++ String.ofList (Units.decode vs)) := by
  rw [decode, units_append_of_eq_some ha, hb, Option.map_some, Option.map_some, Units.decode_append h,
    String.ofList_append]

/-- Where a pair is made, its character stands for the two replacement characters. -/
lemma decode_append_of_meet {high low : UInt16} (ha : units a = some (us ++ [high])) (hb : units b = some (low :: vs))
    (hhigh : Units.isHigh high = true) (hlow : Units.isLow low = true) :
    decode a = some (String.ofList (Units.decode us) ++ "\uFFFD") ∧
      decode b = some ("\uFFFD" ++ String.ofList (Units.decode vs)) ∧
      decode (a ++ b) = some (String.ofList (Units.decode us) ++ .singleton (Units.combine high low) ++
        String.ofList (Units.decode vs)) := by
  refine ⟨?_, ?_, ?_⟩
  · rw [decode, ha, Option.map_some, Units.decode_concat_high hhigh, String.ofList_append]
    rfl
  · rw [decode, hb, Option.map_some, Units.decode_loneLow hlow, String.ofList_cons]
    rfl
  · rw [decode, units_append_of_eq_some ha, hb, Option.map_some, Option.map_some, List.append_assoc,
      List.singleton_append, Units.decode_append_pair hhigh hlow, String.ofList_append, String.ofList_cons,
      String.append_assoc]

/-- Whether bytes decode does not depend on accepted bytes in front of them. The texts are joined like the bytes,
except where a high surrogate meets a low one: the character that the pair denotes replaces the two replacement
characters. All this holds with the shortcut too, whichever of the bytes take it. -/
theorem texts_of_joined_bytes {a : Bytes} {s : String} (ha : decode a = some s) (b : Bytes) :
    ((∃ text, decode (a ++ b) = some text) ↔ ∃ text, decode b = some text) ∧
      (∀ t, decode b = some t →
        ((¬ ∃ high low, Meet a b high low) → decode (a ++ b) = some (s ++ t)) ∧
        ∀ high low, Meet a b high low → ∃ front back c,
          s = front ++ "\uFFFD" ∧ t = "\uFFFD" ++ back ∧ decode (a ++ b) = some (front ++ .singleton c ++ back) ∧
          c.toNat = 0x10000 + (high.toNat - 0xD800) * 0x400 + (low.toNat - 0xDC00)) ∧
      ∀ bytes, decodeWithShortcut bytes = decode bytes := by
  obtain ⟨us, hus, hs⟩ := Option.map_eq_some_iff.1 ha
  refine ⟨exists_decode_append_iff hus b, ?_, decodeWithShortcut_eq⟩
  intro t hb
  obtain ⟨vs, hvs, ht⟩ := Option.map_eq_some_iff.1 hb
  constructor
  · intro hmeet
    rw [← hs, ← ht]
    exact decode_append_of_apart hus hvs ((apart_iff_not_meet hus hvs).2 hmeet)
  · rintro high low ⟨front, back, ha', hb', hhigh, hlow⟩
    obtain ⟨hdecode, hdecode', hjoined⟩ := decode_append_of_meet ha' hb' hhigh hlow
    exact ⟨_, _, _, Option.some.inj (ha.symm.trans hdecode), Option.some.inj (hb.symm.trans hdecode'), hjoined,
      Units.toNat_combine hhigh hlow⟩

/-- The halves of the pair for `U+1F600`, behind a letter; and a text that the shortcut takes behind one that it does
not take. -/
theorem joined_halves_of_pair :
    decode [0x41, 0xED, 0xA0, 0xBD] = some "A\uFFFD" ∧
      Meet [0x41, 0xED, 0xA0, 0xBD] [0xED, 0xB8, 0x80] 0xD83D 0xDE00 ∧
      (∃ front back c, "A\uFFFD" = front ++ "\uFFFD" ∧ "\uFFFD" = "\uFFFD" ++ back ∧ c.toNat = 0x1F600 ∧
        decode [0x41, 0xED, 0xA0, 0xBD, 0xED, 0xB8, 0x80] = some (front ++ .singleton c ++ back)) ∧
      (¬ ∃ high low, Meet [0x41, 0xED, 0xA0, 0xBD] [0x42] high low) ∧
      decode [0x41, 0xED, 0xA0, 0xBD, 0x42] = some "A\uFFFDB" := by
  have hdecode : decode [0x41, 0xED, 0xA0, 0xBD] = some "A\uFFFD" := by decide
  have hmeet : Meet [0x41, 0xED, 0xA0, 0xBD] [0xED, 0xB8, 0x80] 0xD83D 0xDE00 :=
    ⟨[0x41], [], by decide, by decide, by decide, by decide⟩
  have hapart : ¬ ∃ high low, Meet [0x41, 0xED, 0xA0, 0xBD] [0x42] high low := by
    have hunits : units [0x41, 0xED, 0xA0, 0xBD] = some [0x41, 0xD83D] := by decide
    have hunitsB : units [0x42] = some [0x42] := by decide
    refine (apart_iff_not_meet hunits hunitsB).1 ?_
    intro high _ low hlow _
    cases hlow
    decide
  obtain ⟨-, htexts, -⟩ := texts_of_joined_bytes hdecode [0xED, 0xB8, 0x80]
  obtain ⟨-, htextsB, -⟩ := texts_of_joined_bytes hdecode [0x42]
  obtain ⟨front, back, c, hs, ht, hjoined, hc⟩ := (htexts "\uFFFD" (by decide)).2 _ _ hmeet
  exact ⟨hdecode, hmeet, ⟨front, back, c, hs, ht, hc, hjoined⟩, hapart, (htextsB "B" (by decide)).1 hapart⟩

end ModifiedUtf8

end ClassStub.Text
