import ClassStub.Proofs.ClassFile.ConstantPool
import ClassStub.Proofs.Text.Groups

/-!
# The bytes of a text constant

The bytes of a text constant are cut into groups (`Text.ModifiedUtf8.IsCut`), each group is a unit, and the units are
read as characters, with a replacement for each surrogate that stands alone. Bytes that are not groups in a row are a
fault of the constant. Where every byte is a group of its own, reading the bytes as UTF-8 gives the same text.
-/

namespace ClassStub.ClassFile

open Text ModifiedUtf8

variable {b : Bytes}

/-- A text constant is a fault exactly when its bytes do not decode. -/
lemma Constant.run_read_utf8_eq_error_iff (hlen : b.length < 0x10000) (rest : Bytes) :
    Constant.read.run (Item.encode (.utf8 b) ++ rest) = .error .text ↔ decode b = none := by
  have henc : (Item.utf8 b).Encodable := hlen
  rw [Item.decodes_constant.run_encode rest henc, Item.constant]
  cases decode b with
  | some text =>
    constructor
    · intro h
      cases h
    · intro h
      cases h
  | none => exact ⟨fun _ => rfl, fun _ => rfl⟩

/-- Bytes decode exactly when they are cut into groups, which is possible in one way, and then to the text that the
units of the groups read as. All others are a fault of the text constant that holds them. Bytes that are all groups of
their own may be taken for UTF-8 instead. -/
theorem text_constants_are_groups (b : Bytes) :
    ((∃ text, decode b = some text) ↔ ∃ groups, IsCut b groups) ∧
      (∀ groups, IsCut b groups → (∀ groups', IsCut b groups' → groups' = groups) ∧
        ∀ text, decode b = some text ↔ Units.Lossy (groups.map groupUnit) text.toList) ∧
      ((¬ ∃ groups, IsCut b groups) → decode b = none ∧
        (b.length < 0x10000 → ∀ rest, Constant.read.run (Item.encode (.utf8 b) ++ rest) = .error .text)) ∧
      decodeWithShortcut b = decode b ∧
      (b.all isSingle = true → ∃ text, Utf8.decode? b = some text ∧ decode b = some text) := by
  refine ⟨exists_decode_iff, ?_, ?_, decodeWithShortcut_eq b, ?_⟩
  · intro groups hcut
    refine ⟨fun groups' hcut' => hcut'.unique hcut, fun text => ?_⟩
    rw [decode_eq_some_iff]
    constructor
    · rintro ⟨groups', hcut', htext⟩
      exact hcut'.unique hcut ▸ htext
    · exact fun htext => ⟨groups, hcut, htext⟩
  · intro hcut
    have hnone := decode_eq_none_iff.2 hcut
    exact ⟨hnone, fun hlen rest => (Constant.run_read_utf8_eq_error_iff hlen rest).2 hnone⟩
  · exact fun h => exists_text_of_singles (List.all_eq_true.1 h)

/-- Three texts: a letter in two bytes and a surrogate alone, which decode; a lead byte alone, which does not; and one
that the shortcut takes. -/
theorem sampleTexts_are_groups :
    decode [0xC1, 0x81, 0xED, 0xA0, 0x80] = some "A\uFFFD" ∧
      (∀ groups, IsCut [0xC1, 0x81, 0xED, 0xA0, 0x80] groups → groups = [[0xC1, 0x81], [0xED, 0xA0, 0x80]]) ∧
      (¬ ∃ groups, IsCut [0xC3] groups) ∧ [0xC3].length < 0x10000 ∧
      Constant.read.run (Item.encode (.utf8 [0xC3]) ++ [0x41]) = .error .text ∧
      [0x41, 0x42].all isSingle = true ∧ Utf8.decode? [0x41, 0x42] = decode [0x41, 0x42] := by
  have hcut : IsCut [0xC1, 0x81, 0xED, 0xA0, 0x80] [[0xC1, 0x81], [0xED, 0xA0, 0x80]] := by
    refine ⟨rfl, List.forall_mem_cons.2 ⟨?_, List.forall_mem_cons.2 ⟨?_, List.forall_mem_nil _⟩⟩⟩
    · exact .two (by decide) (by decide) (by decide) (by decide)
    · exact .three (by decide) (by decide) (by decide) (by decide) (by decide) (by decide)
  obtain ⟨_, hdecodes, _⟩ := text_constants_are_groups [0xC1, 0x81, 0xED, 0xA0, 0x80]
  obtain ⟨hunique, htext⟩ := hdecodes _ hcut
  obtain ⟨hiff, _, hfault, _⟩ := text_constants_are_groups [0xC3]
  have hnone : ¬ ∃ groups, IsCut [0xC3] groups := by
    rw [← hiff]
    have hdecode : decode [0xC3] = none := by decide
    rw [hdecode]
    rintro ⟨text, h⟩
    cases h
  obtain ⟨text, hutf8, hdecode⟩ := (text_constants_are_groups [0x41, 0x42]).2.2.2.2 (by decide)
  refine ⟨(htext _).2 ?_, hunique, hnone, by decide, (hfault hnone).2 (by decide) [0x41], by decide, ?_⟩
  · exact .plain rfl rfl (.loneHigh rfl (by simp) .nil)
  · rw [hutf8, hdecode]

end ClassStub.ClassFile
