import ClassStub.Proofs.Text.Joining
import ClassStub.Proofs.Text.Segments

/-!
# Identifiers and internal names

An internal name is a sequence of identifiers with `/` between them. Identifiers hold none of the characters that
stubs put between words, so a dotted name can be cut back into its segments: it determines the internal name, and
it is never a reserved word.
-/

namespace ClassStub.Text

/-- The words that Java reserves: its keywords and the literals that are words. -/
def reservedWords : List String := [
  "abstract", "assert", "boolean", "break", "byte", "case", "catch", "char", "class", "const", "continue",
  "default", "do", "double", "else", "enum", "extends", "final", "finally", "float", "for", "goto", "if",
  "implements", "import", "instanceof", "int", "interface", "long", "native", "new", "package", "private",
  "protected", "public", "return", "short", "static", "strictfp", "super", "switch", "synchronized", "this",
  "throw", "throws", "transient", "try", "void", "volatile", "while", "true", "false", "null"]

/-- An ASCII letter or digit, `_` or `$`. -/
def isWordChar (c : Char) : Bool := c.isAlphanum || c == '_' || c == '$'

/-- A word that can name something: it does not start with a digit and is not reserved. -/
structure IsIdentifier (word : String) : Prop where
  ne_empty : word ≠ ""
  wordChars : word.toList.all isWordChar
  start : word.toList.head?.all fun c => !c.isDigit
  unreserved : word ∉ reservedWords

/-- Whether a word is an identifier is decided by its characters. -/
instance (word : String) : Decidable (IsIdentifier word) :=
  decidable_of_iff
    (word ≠ "" ∧ word.toList.all isWordChar ∧ (word.toList.head?.all fun c => !c.isDigit) ∧ word ∉ reservedWords)
    ⟨fun ⟨hne, hchars, hstart, hfree⟩ => ⟨hne, hchars, hstart, hfree⟩,
      fun ⟨hne, hchars, hstart, hfree⟩ => ⟨hne, hchars, hstart, hfree⟩⟩

/-- One or more identifiers with `/` between them. -/
def IsInternalName (name : String) : Prop := ∀ segment ∈ segments name, IsIdentifier segment

/-- Whether a name is an internal name is decided segment by segment. -/
instance (name : String) : Decidable (IsInternalName name) :=
  inferInstanceAs (Decidable (∀ segment ∈ segments name, IsIdentifier segment))

/-- A text of word characters has no others. -/
lemma not_mem_of_all_isWordChar {word : String} (hword : word.toList.all isWordChar) {c : Char}
    (hc : isWordChar c = false) : c ∉ word.toList := by
  intro hmem
  rw [List.all_eq_true.1 hword c hmem] at hc
  cases hc

/-- An identifier has word characters only. -/
lemma IsIdentifier.not_mem {word : String} (hword : IsIdentifier word) {c : Char} (hc : isWordChar c = false) :
    c ∉ word.toList :=
  not_mem_of_all_isWordChar hword.wordChars hc

/-- A reserved word has word characters only. -/
lemma not_mem_of_mem_reservedWords {word : String} (hword : word ∈ reservedWords) {c : Char}
    (hc : isWordChar c = false) : c ∉ word.toList := by
  have hall : ∀ w ∈ reservedWords, w.toList.all isWordChar := by decide
  exact not_mem_of_all_isWordChar (hall word hword) hc

/-- A name is known by its segments. -/
lemma segments_injective {name name' : String} (h : segments name = segments name') : name = name' := by
  rw [← intercalate_segments name, h, intercalate_segments]

/-- Segments can be read back from the dots between them. -/
lemma intercalate_dot_inj {segs segs' : List String} (hne : segs ≠ []) (hne' : segs' ≠ [])
    (hsegs : ∀ s ∈ segs, IsIdentifier s) (hsegs' : ∀ s ∈ segs', IsIdentifier s)
    (h : ".".intercalate segs = ".".intercalate segs') : segs = segs' :=
  intercalate_inj (c := '.') rfl hne hne' (fun s hs => (hsegs s hs).not_mem (by decide))
    (fun s hs => (hsegs' s hs).not_mem (by decide)) h

namespace IsInternalName

variable {name name' : String}

/-- An internal name is known by what is written with dots. -/
lemma dotted_inj (hname : IsInternalName name) (hname' : IsInternalName name')
    (h : ".".intercalate (segments name) = ".".intercalate (segments name')) : name = name' :=
  segments_injective (intercalate_dot_inj (segments_ne_nil _) (segments_ne_nil _) hname hname' h)

/-- An internal name with dots has word characters and dots only. -/
lemma not_mem_dotted (hname : IsInternalName name) {c : Char} (hc : isWordChar c = false) (hdot : c ≠ '.') :
    c ∉ (".".intercalate (segments name)).toList :=
  not_mem_intercalate (by simpa using hdot) fun s hs => (hname s hs).not_mem hc

/-- No dotted name is reserved: a reserved word has no dot, so the name would be that word alone. -/
lemma dotted_not_mem_reservedWords (hname : IsInternalName name) :
    ".".intercalate (segments name) ∉ reservedWords := by
  intro hmem
  have hword : ".".intercalate (segments name) = ".".intercalate [".".intercalate (segments name)] := by simp
  have hone : segments name = [".".intercalate (segments name)] :=
    intercalate_inj (c := '.') rfl (segments_ne_nil _) (by simp) (fun s hs => (hname s hs).not_mem (by decide))
      (by simpa using not_mem_of_mem_reservedWords hmem (by decide)) hword
  exact (hname (".".intercalate (segments name)) (by rw [hone]; simp)).unreserved hmem

end IsInternalName

end ClassStub.Text
