import ClassStub.Proofs.Descriptor.Tokens
import ClassStub.Proofs.Stub.Print
import ClassStub.Proofs.Text.Identifier

/-!
# Lines of members are readable

The line of a field or method in a stub determines what the stub shows of the member. The words of a line are cut
at blanks, its modifiers are the longest run of modifier words, the words in front of the parameters end at the
first `(`, parameters are cut at commas, and a type ends at its first `[`.
-/

namespace ClassStub

open Text

/-- A class path is an internal name. -/
def ElementType.IsProper : ElementType → Prop
  | object path _ => IsInternalName path
  | _ => True

/-- Whether an element type is proper is decided by the name in it. -/
instance (e : ElementType) : Decidable e.IsProper :=
  match e with
  | .void => .isTrue trivial
  | .primitive _ => .isTrue trivial
  | .object path _ => inferInstanceAs (Decidable (IsInternalName path))

/-- A type that fields and parameters have: not void, and not an array of void. -/
def TypeDescriptor.IsValue (t : TypeDescriptor) : Prop :=
  t.element.IsProper ∧ t.element ≠ .void

/-- Whether a type is one of values is decided by its element type. -/
instance (t : TypeDescriptor) : Decidable t.IsValue :=
  inferInstanceAs (Decidable (t.element.IsProper ∧ t.element ≠ .void))

/-- A type that methods return: a type of values, or void. -/
def TypeDescriptor.IsResult (t : TypeDescriptor) : Prop :=
  t.element.IsProper ∧ (t.element = .void → t.dims = 0)

/-- Whether a type can be returned is decided by its element type and its dimensions. -/
instance (t : TypeDescriptor) : Decidable t.IsResult :=
  inferInstanceAs (Decidable (t.element.IsProper ∧ (t.element = .void → t.dims = 0)))

/-- What a stub shows of a method. -/
structure MethodApi where
  modifiers : List String
  params : List String
  /-- The descriptor of the result and the name, none of a constructor. -/
  named : Option (String × String)
  deriving DecidableEq, Repr

/-- The API of a method. -/
def Member.api (m : Member) : MethodApi where
  modifiers := m.access.modifiers
  params := m.paramDescriptors
  named := if m.isConstructor then none else some (m.resultDescriptor, m.name)

/-- The characters that stubs put between words, lines, parameters, and a name and its parameters. -/
def separators : List Char := [' ', '\n', ',', '(']

/-- There are four separators. -/
lemma mem_separators_cases {c : Char} (hc : c ∈ separators) : c = ' ' ∨ c = '\n' ∨ c = ',' ∨ c = '(' := by
  simpa [separators] using hc

/-- A separator is no character of a word. -/
lemma isWordChar_of_mem_separators {c : Char} (hc : c ∈ separators) : isWordChar c = false := by
  obtain rfl | rfl | rfl | rfl := mem_separators_cases hc <;> decide

/-! ### Types -/

namespace ElementType

variable {e e' : ElementType}

/-- The word for no value is reserved. -/
lemma void_text_reserved : void.text ∈ reservedWords := by decide

/-- The words for primitive types are reserved. -/
lemma primitive_text_reserved (p : Primitive) : (primitive p).text ∈ reservedWords := by
  cases p <;> decide

/-- The name of a class is not reserved. -/
lemma object_text_unreserved {path : String} {unended : ';' ∉ path.toList} (he : (object path unended).IsProper) :
    (object path unended).text ∉ reservedWords :=
  he.dotted_not_mem_reservedWords

/-- An element type is known by its text. -/
lemma text_inj (he : e.IsProper) (he' : e'.IsProper) (h : e.text = e'.text) : e = e' := by
  cases e with
  | void =>
    cases e' with
    | void => rfl
    | primitive q => cases q <;> exact absurd h (by decide)
    | object path' unended' => exact absurd (h ▸ void_text_reserved) (object_text_unreserved he')
  | primitive p =>
    cases e' with
    | void => cases p <;> exact absurd h (by decide)
    | primitive q => cases p <;> cases q <;> first | rfl | exact absurd h (by decide)
    | object path' unended' => exact absurd (h ▸ primitive_text_reserved p) (object_text_unreserved he')
  | object path unended =>
    cases e' with
    | void => exact absurd (h ▸ void_text_reserved) (object_text_unreserved he)
    | primitive q => exact absurd (h ▸ primitive_text_reserved q) (object_text_unreserved he)
    | object path' unended' =>
      have hpath : path = path' := he.dotted_inj he' h
      subst hpath
      rfl

/-- In the text of an element type there are only characters of words, and dots. -/
lemma not_mem_text (he : e.IsProper) {c : Char} (hc : isWordChar c = false) (hdot : c ≠ '.') :
    c ∉ e.text.toList := by
  cases e with
  | void => exact not_mem_of_mem_reservedWords void_text_reserved hc
  | primitive p => exact not_mem_of_mem_reservedWords (primitive_text_reserved p) hc
  | object path unended => exact he.not_mem_dotted hc hdot

end ElementType

namespace TypeDescriptor

variable {t t' : TypeDescriptor}

/-- Each pair of brackets has two characters. -/
lemma length_brackets (n : Nat) : (String.join (List.replicate n "[]")).toList.length = n * 2 := by
  rw [String.toList_join, List.flatMap_replicate]
  simp

/-- The brackets begin at the first `[`, and their length tells the dimensions. -/
lemma text_inj (ht : t.element.IsProper) (ht' : t'.element.IsProper) (h : t.text = t'.text) : t = t' := by
  have hhead : ∀ (n : Nat), ∀ x ∈ (String.join (List.replicate n "[]")).toList.head?, x = '[' := by
    intro n
    cases n with
    | zero => simp
    | succ n => simp [List.replicate_succ]
  obtain ⟨helement, hbrackets⟩ := append_inj_of_not_mem h (ElementType.not_mem_text ht (by decide) (by decide))
    (ElementType.not_mem_text ht' (by decide) (by decide)) (hhead t.dims.toNat) (hhead t'.dims.toNat)
  have hdims : t.dims = t'.dims := by
    have hlength := congrArg (fun s => s.toList.length) hbrackets
    simp only [length_brackets] at hlength
    exact UInt8.toNat_inj.1 (Nat.eq_of_mul_eq_mul_right Nat.two_pos hlength)
  obtain ⟨dims, element⟩ := t
  obtain ⟨dims', element'⟩ := t'
  have heq : element = element' := ElementType.text_inj ht ht' helement
  subst heq
  cases hdims
  rfl

/-- There are no separators in the text of a type. -/
lemma not_mem_text (ht : t.element.IsProper) {c : Char} (hc : c ∈ separators) : c ∉ t.text.toList := by
  have hother : c ≠ '.' ∧ c ∉ "[]".toList := by
    obtain rfl | rfl | rfl | rfl := mem_separators_cases hc <;> decide
  rw [text, String.toList_append, String.toList_join, List.mem_append, not_or]
  refine ⟨ElementType.not_mem_text ht (isWordChar_of_mem_separators hc) hother.1, ?_⟩
  intro hmem
  obtain ⟨piece, hpiece, hcpiece⟩ := List.mem_flatMap.1 hmem
  rw [List.eq_of_mem_replicate hpiece] at hcpiece
  exact hother.2 hcpiece

end TypeDescriptor

/-! ### Words -/

/-- The words that can be modifiers. -/
def modifierKeywords : List String := ["public", "private", "protected", "final", "static", "abstract"]

/-- The keywords for modifiers are reserved. -/
lemma modifierKeywords_subset : modifierKeywords ⊆ reservedWords := by decide

/-- The words in front of a field are keywords for modifiers. -/
lemma fieldWords_subset (bits : UInt16) : fieldWords bits ⊆ modifierKeywords := by
  rw [fieldWords]
  generalize bits.toNat.testBit 0 = b₀, bits.toNat.testBit 1 = b₁, bits.toNat.testBit 2 = b₂,
    bits.toNat.testBit 3 = b₃, bits.toNat.testBit 4 = b₄
  revert b₀ b₁ b₂ b₃ b₄
  decide

/-- The words in front of a class or method are keywords for modifiers. -/
lemma modifierWords_subset (bits : UInt16) : modifierWords bits ⊆ modifierKeywords := by
  rw [modifierWords]
  refine List.append_subset.2 ⟨fieldWords_subset bits, ?_⟩
  split <;> decide

/-- No type is written as a modifier: arrays have brackets, classes have names of their own. -/
lemma TypeDescriptor.text_not_mem_modifierKeywords {t : TypeDescriptor} (ht : t.element.IsProper) :
    t.text ∉ modifierKeywords := by
  intro hmem
  by_cases hdims : t.dims = 0
  · rw [text, hdims, show String.join (List.replicate (0 : UInt8).toNat "[]") = "" from rfl,
      String.append_empty] at hmem
    cases he : t.element with
    | void => exact absurd (he ▸ hmem) (by decide)
    | primitive p => rw [he] at hmem; cases p <;> exact absurd hmem (by decide)
    | object path unended =>
      rw [he] at hmem ht
      exact ElementType.object_text_unreserved ht (modifierKeywords_subset hmem)
  · have hbracket : '[' ∈ t.text.toList := by
      have hpos : t.dims.toNat ≠ 0 := fun h => hdims (UInt8.toNat_inj.1 h)
      rw [text, String.toList_append, String.toList_join, List.mem_append]
      exact .inr (List.mem_flatMap.2 ⟨"[]", List.mem_replicate.2 ⟨hpos, rfl⟩, by decide⟩)
    exact not_mem_of_mem_reservedWords (modifierKeywords_subset hmem) (by decide) hbracket

/-- No word of a line has a character that neither its keywords nor its other words have. -/
lemma not_mem_line_words {mods words : List String} {c : Char} (hc : isWordChar c = false)
    (hmods : mods ⊆ modifierKeywords) (hwords : ∀ w ∈ words, c ∉ w.toList) : ∀ w ∈ mods ++ words, c ∉ w.toList := by
  intro w hw
  rcases List.mem_append.1 hw with hw | hw
  · exact not_mem_of_mem_reservedWords (modifierKeywords_subset (hmods hw)) hc
  · exact hwords w hw

/-- The words of a line are cut at blanks, and the modifiers are told from the words behind them. -/
lemma words_inj {mods mods' words words' : List String}
    (h : " ".intercalate (mods ++ words) = " ".intercalate (mods' ++ words'))
    (hmods : mods ⊆ modifierKeywords) (hmods' : mods' ⊆ modifierKeywords)
    (hwords : words ≠ [] ∧ ∀ w ∈ words, ' ' ∉ w.toList) (hwords' : words' ≠ [] ∧ ∀ w ∈ words', ' ' ∉ w.toList)
    (hfirst : ∀ w ∈ words.head?, w ∉ modifierKeywords) (hfirst' : ∀ w ∈ words'.head?, w ∉ modifierKeywords) :
    mods = mods' ∧ words = words' := by
  have hall : mods ++ words = mods' ++ words' :=
    intercalate_inj (c := ' ') rfl (by simp [hwords.1]) (by simp [hwords'.1])
      (not_mem_line_words (by decide) hmods hwords.2) (not_mem_line_words (by decide) hmods' hwords'.2) h
  exact append_inj_of_forall (· ∈ modifierKeywords) hall (fun w hw => hmods hw) (fun w hw => hmods' hw)
    hfirst hfirst'

/-! ### Fields -/

namespace TypedField

variable {f f' : TypedField}

/-- There are no separators in the type and the name of a field. -/
lemma not_mem_words (hname : IsIdentifier f.name) (htype : f.type.IsValue) {c : Char} (hc : c ∈ separators) :
    ∀ w ∈ [f.type.text, f.name], c ∉ w.toList := by
  intro w hw
  rcases List.mem_pair.1 hw with rfl | rfl
  · exact TypeDescriptor.not_mem_text htype.1 hc
  · exact hname.not_mem (isWordChar_of_mem_separators hc)

/-- The line of a field determines the field, up to flags that have no modifier. -/
lemma line_inj (hname : IsIdentifier f.name) (hname' : IsIdentifier f'.name) (htype : f.type.IsValue)
    (htype' : f'.type.IsValue) (h : f.line = f'.line) :
    fieldWords f.bits = fieldWords f'.bits ∧ f.type = f'.type ∧ f.name = f'.name := by
  have hfirst : ∀ {g : TypedField}, g.type.IsValue → ∀ w ∈ [g.type.text, g.name].head?, w ∉ modifierKeywords := by
    intro g hg w hw
    cases hw
    exact TypeDescriptor.text_not_mem_modifierKeywords hg.1
  obtain ⟨hmods, hwords⟩ := words_inj (String.append_left_inj ";" |>.1 h) (fieldWords_subset f.bits)
    (fieldWords_subset f'.bits) ⟨by simp, not_mem_words hname htype (by decide)⟩
    ⟨by simp, not_mem_words hname' htype' (by decide)⟩ (hfirst htype) (hfirst htype')
  obtain ⟨htext, hlast⟩ := List.cons_eq_cons.1 hwords
  exact ⟨hmods, TypeDescriptor.text_inj htype.1 htype'.1 htext, (List.cons_eq_cons.1 hlast).1⟩

end TypedField

/-! ### Methods -/

namespace TypedMethod

/-- What a stub needs of a method to show it: the name may be that of a constructor. -/
structure Readable (m : TypedMethod) : Prop where
  name : m.name = Member.constructorName ∨ IsIdentifier m.name
  params : ∀ t ∈ m.params, t.IsValue
  result : m.result.element.IsProper

/-- The words in front of the parameters, behind the modifiers. -/
def words (className : String) (m : TypedMethod) : List String :=
  if m.name = Member.constructorName then [className] else [m.result.text, m.name]

/-- A parameter at a position. -/
def paramText (param : TypeDescriptor × Nat) : String :=
  param.1.text ++ (" a" ++ toString param.2)

variable {m m' : TypedMethod} {className : String}

/-- The parameters of a method are written with their numbers. -/
lemma paramTexts_eq (hm : m.Readable) : m.paramTexts = m.params.zipIdx.map paramText := by
  rw [paramTexts, ← List.filterMap_eq_map]
  apply List.filterMap_congr
  intro param hparam
  obtain ⟨t, i⟩ := param
  have ht : t.IsValue := hm.params t (List.fst_mem_of_mem_zipIdx hparam)
  have hvoid : t.isVoid = false := by
    obtain ⟨dims, element⟩ := t
    cases element with
    | void => exact absurd rfl ht.2
    | primitive p => rfl
    | object path unended => rfl
  simp [hvoid, paramText, String.append_assoc]

/-- The line of a method is its words, and its parameters in parentheses. -/
lemma line_eq (m : TypedMethod) (className : String) :
    m.line className = " ".intercalate (modifierWords m.bits ++ m.words className) ++
      ("(" ++ (",".intercalate m.paramTexts ++ ")\x7b\x7d")) := by
  simp only [line, words, String.append_assoc]
  rfl

/-- There are no separators in the words of a method. -/
lemma not_mem_words (hm : m.Readable) (hclass : IsIdentifier className) {c : Char} (hc : c ∈ separators) :
    ∀ w ∈ m.words className, c ∉ w.toList := by
  have hword := isWordChar_of_mem_separators hc
  intro w hw
  rw [words] at hw
  split at hw
  · rw [List.mem_singleton.1 hw]
    exact hclass.not_mem hword
  · rcases List.mem_pair.1 hw with rfl | rfl
    · exact TypeDescriptor.not_mem_text hm.result hc
    · exact (hm.name.resolve_left ‹_›).not_mem hword

/-- The first word of a method behind its modifiers is no keyword for a modifier. -/
lemma head?_words (hm : m.Readable) (hclass : IsIdentifier className) :
    ∀ w ∈ (m.words className).head?, w ∉ modifierKeywords := by
  intro w hw
  rw [words] at hw
  split at hw
  · cases hw
    exact fun hmem => hclass.unreserved (modifierKeywords_subset hmem)
  · cases hw
    exact TypeDescriptor.text_not_mem_modifierKeywords hm.result

/-- A method has a word behind its modifiers. -/
lemma words_ne_nil (m : TypedMethod) (className : String) : m.words className ≠ [] := by
  rw [words]
  split <;> simp

/-- There are no separators but blanks in a parameter. -/
lemma not_mem_paramText {param : TypeDescriptor × Nat} (hparam : param.1.IsValue) {c : Char} (hc : c ∈ separators)
    (hblank : c ≠ ' ') : c ∉ (paramText param).toList := by
  have hother : c ∉ "a".toList ∧ c.isDigit = false := by
    obtain rfl | rfl | rfl | rfl := mem_separators_cases hc <;> decide
  rw [paramText, String.toList_append, String.toList_append, List.mem_append, List.mem_append, not_or, not_or]
  refine ⟨TypeDescriptor.not_mem_text hparam.1 hc, ?_, ?_⟩
  · intro hmem
    rcases List.mem_cons.1 hmem with hmem | hmem
    · exact hblank hmem
    · exact hother.1 hmem
  · intro hmem
    rw [Nat.toString_eq_ofList_toDigits, String.toList_ofList] at hmem
    have hc' := Nat.isDigit_of_mem_toDigits (by decide) (by decide) hmem
    rw [hother.2] at hc'
    cases hc'

/-- The parameters end at commas, the type of each at its first blank. -/
lemma params_inj (hm : m.Readable) (hm' : m'.Readable)
    (h : ",".intercalate m.paramTexts = ",".intercalate m'.paramTexts) : m.params = m'.params := by
  have hvalue : ∀ {k : TypedMethod}, k.Readable → ∀ param ∈ k.params.zipIdx, param.1.IsValue := by
    intro k hk param hparam
    exact hk.params param.1 (List.fst_mem_of_mem_zipIdx hparam)
  have hparts : ∀ {k : TypedMethod}, k.Readable → ∀ s ∈ k.paramTexts, s ≠ "" ∧ ',' ∉ s.toList := by
    intro k hk s hs
    rw [paramTexts_eq hk] at hs
    obtain ⟨param, hparam, rfl⟩ := List.mem_map.1 hs
    refine ⟨?_, not_mem_paramText (hvalue hk param hparam) (by decide) (by decide)⟩
    intro hempty
    have := congrArg String.toList hempty
    simp [paramText] at this
  -- The positions are in the texts as well, but the types alone are read back from them.
  have htexts := intercalate_inj_of_ne_empty (c := ',') rfl (hparts hm) (hparts hm') h
  rw [paramTexts_eq hm, paramTexts_eq hm'] at htexts
  have hmap : m.params.zipIdx.map Prod.fst = m'.params.zipIdx.map Prod.fst := by
    refine map_eq_map_of_forall ?_ htexts
    intro param hparam param' hparam' heq
    have ht := (hvalue hm param hparam).1
    have ht' := (hvalue hm' param' hparam').1
    exact TypeDescriptor.text_inj ht ht' (append_inj_of_not_mem (c := ' ') heq
      (TypeDescriptor.not_mem_text ht (by decide)) (TypeDescriptor.not_mem_text ht' (by decide))
      (by simp) (by simp)).1
  rwa [List.zipIdx_map_fst, List.zipIdx_map_fst] at hmap

/-- The API of a method is what its types and words are. -/
lemma api_member (m : TypedMethod) :
    m.member.api = {
      modifiers := modifierWords m.bits
      params := m.params.map fun t => String.ofList t.spell
      named := if m.name = Member.constructorName then none else some (String.ofList m.result.spell, m.name) } := by
  rw [Member.api, Member.paramDescriptors_eq rfl m.closed, Member.resultDescriptor_eq rfl m.closed,
    show m.member.access = ⟨m.bits⟩ from rfl, AccessFlags.modifiers_eq, Member.isConstructor,
    show m.member.name = m.name from rfl]
  simp only [beq_iff_eq]

/-- The line of a method determines its API: a constructor has one word less than another method. -/
lemma line_inj (hclass : IsIdentifier className) (hm : m.Readable) (hm' : m'.Readable)
    (h : m.line className = m'.line className) : m.member.api = m'.member.api := by
  rw [line_eq, line_eq] at h
  have hopen : ∀ {k : TypedMethod}, k.Readable →
      '(' ∉ (" ".intercalate (modifierWords k.bits ++ k.words className)).toList := by
    intro k hk
    exact not_mem_intercalate (by decide)
      (not_mem_line_words (by decide) (modifierWords_subset k.bits) (not_mem_words hk hclass (by decide)))
  obtain ⟨hfront, hback⟩ := append_inj_of_not_mem h (hopen hm) (hopen hm') (by simp) (by simp)
  obtain ⟨hmods, hwords⟩ := words_inj hfront (modifierWords_subset m.bits) (modifierWords_subset m'.bits)
    ⟨words_ne_nil m className, not_mem_words hm hclass (by decide)⟩
    ⟨words_ne_nil m' className, not_mem_words hm' hclass (by decide)⟩ (head?_words hm hclass)
    (head?_words hm' hclass)
  have hparams := params_inj hm hm' (String.append_left_inj _ |>.1 (String.append_right_inj _ |>.1 hback))
  rw [api_member, api_member, hmods, hparams]
  congr 1
  -- One word is a constructor, two are a result and a name.
  rw [words, words] at hwords
  by_cases hname : m.name = Member.constructorName
  · by_cases hname' : m'.name = Member.constructorName
    · rw [if_pos hname, if_pos hname']
    · rw [if_pos hname, if_neg hname'] at hwords
      cases hwords
  · by_cases hname' : m'.name = Member.constructorName
    · rw [if_neg hname, if_pos hname'] at hwords
      cases hwords
    · rw [if_neg hname, if_neg hname'] at hwords
      obtain ⟨htext, hlast⟩ := List.cons_eq_cons.1 hwords
      rw [if_neg hname, if_neg hname', TypeDescriptor.text_inj hm.result hm'.result htext,
        (List.cons_eq_cons.1 hlast).1]

end TypedMethod

end ClassStub
