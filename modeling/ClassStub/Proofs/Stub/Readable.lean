import ClassStub.Proofs.Stub.MemberLines

/-!
# Stubs are readable

The stub of a well-formed declaration determines the API that it shows: what two declarations with the same stub
do not share is never in a stub. The text is taken apart from the outside in. Lines are cut at newlines and told
apart by their last character; the package line and the header give the names, the other lines the members.
-/

namespace ClassStub

open Text

/-- All names are identifiers, or sequences of them, and all types are in their places. -/
structure TypedDeclaration.WellFormed (D : TypedDeclaration) : Prop where
  name : IsInternalName D.name
  superclass : ∀ name ∈ D.superclass, IsInternalName name
  interfaces : ∀ name ∈ D.interfaces, IsInternalName name
  fieldNames : ∀ f ∈ D.fields, IsIdentifier f.name
  fieldTypes : ∀ f ∈ D.fields, f.type.IsValue
  methodNames : ∀ m ∈ D.methods,
    IsIdentifier m.name ∨ m.name = Member.constructorName ∨ m.name = Member.initializerName
  paramTypes : ∀ m ∈ D.methods, ∀ t ∈ m.params, t.IsValue
  resultTypes : ∀ m ∈ D.methods, m.result.IsResult

/-- The descriptors of the declaration spell types, and it is well formed with these types. -/
def Declaration.WellFormed (d : Declaration) : Prop :=
  ∃ D : TypedDeclaration, D.WellFormed ∧ D.declaration = d

/-- What a stub shows of a class. -/
structure Api where
  name : String
  kind : ClassKind
  modifiers : List String
  superclass : Option String
  interfaces : List String
  /-- The modifiers, the descriptor and the name of each field. -/
  fields : List (List String × String × String)
  constants : List String
  methods : List MethodApi
  deriving DecidableEq, Repr

/-- The methods that have a line in the stub. -/
def Declaration.emitted (d : Declaration) : List Member :=
  d.methods.filter fun m => d.shows m && (Signature.ofDescriptor? m.descriptor).isSome

/-- The API of a declaration. Only an ordinary class has a superclass here; an enum has no interfaces, and
constants in the place of fields. -/
def Declaration.api (d : Declaration) : Api where
  name := d.name
  kind := d.kind
  modifiers := d.access.modifiers
  superclass := if d.kind = .ordinary then d.superclass else none
  interfaces := if d.kind = .enumeration then [] else d.interfaces
  fields :=
    if d.kind = .enumeration then [] else d.fields.map fun f => (f.access.fieldModifiers, f.descriptor, f.name)
  constants :=
    if d.kind = .enumeration then (d.fields.filter fun f => f.access.isEnum).map Member.name else []
  methods := d.emitted.map Member.api

/-! ### Names and headers -/

namespace TypedDeclaration

variable {D D' : TypedDeclaration}

/-- The simple name of a well-formed class is an identifier. -/
lemma WellFormed.simpleName (hD : D.WellFormed) : IsIdentifier D.simpleName :=
  hD.name _ (List.getLast_mem _)

/-- A class has a line for its package when its name has more than one segment. -/
lemma packageLines_eq (D : TypedDeclaration) :
    D.packageLines = if (segments D.name).dropLast = [] then []
      else ["package " ++ ".".intercalate (segments D.name).dropLast ++ ";"] := by
  rw [packageLines]
  cases (segments D.name).dropLast <;> simp

/-- The package line tells all segments of the name but the last, which is the simple name. -/
lemma name_inj (hD : D.WellFormed) (hD' : D'.WellFormed) (hpackage : D.packageLines = D'.packageLines)
    (hsimple : D.simpleName = D'.simpleName) : D.name = D'.name := by
  have hsegments : ∀ {E : TypedDeclaration}, E.WellFormed → ∀ s ∈ (segments E.name).dropLast, IsIdentifier s := by
    intro E hE s hs
    exact hE.name s (List.dropLast_subset _ hs)
  have hfront : (segments D.name).dropLast = (segments D'.name).dropLast := by
    rw [packageLines_eq, packageLines_eq] at hpackage
    by_cases hne : (segments D.name).dropLast = []
    · by_cases hne' : (segments D'.name).dropLast = []
      · rw [hne, hne']
      · rw [if_pos hne, if_neg hne'] at hpackage
        cases hpackage
    · by_cases hne' : (segments D'.name).dropLast = []
      · rw [if_neg hne, if_pos hne'] at hpackage
        cases hpackage
      · rw [if_neg hne, if_neg hne', List.cons.injEq, String.append_left_inj, String.append_right_inj] at hpackage
        exact intercalate_dot_inj hne hne' (hsegments hD) (hsegments hD') hpackage.1
  apply segments_injective
  rw [← List.dropLast_append_getLast (segments_ne_nil D.name),
    ← List.dropLast_append_getLast (segments_ne_nil D'.name), hfront]
  exact congrArg (fun s => (segments D'.name).dropLast ++ [s]) hsimple

/-- The words of the header behind the modifiers. -/
def headerWords (D : TypedDeclaration) : List String :=
  [D.kind.keyword, D.simpleName] ++ D.superclassWords ++ D.interfaceWords

/-- The keyword of a kind is reserved. -/
lemma kind_keyword_reserved (kind : ClassKind) : kind.keyword ∈ reservedWords := by
  cases kind <;> decide

/-- The word in front of the interfaces. -/
def interfacesKeyword : ClassKind → String
  | .ordinary => "implements"
  | _ => "extends"

/-- A superclass is written for ordinary classes. -/
lemma superclassWords_eq (D : TypedDeclaration) :
    D.superclassWords = if D.kind = .ordinary
      then (D.superclass.map fun name => ["extends", ".".intercalate (segments name)]).getD [] else [] := by
  rw [superclassWords]
  cases D.kind <;> cases D.superclass <;> rfl

/-- Interfaces are written unless there are none, or the class is an enum. -/
lemma interfaceWords_eq (D : TypedDeclaration) :
    D.interfaceWords = if D.kind = .enumeration ∨ D.interfaces = [] then []
      else [interfacesKeyword D.kind,
        ",".intercalate (D.interfaces.map fun name => ".".intercalate (segments name))] := by
  rw [interfaceWords]
  cases D.kind <;> cases D.interfaces <;> rfl

/-- The words of a superclass are the keyword and the name with dots. -/
lemma mem_superclassWords {w : String} (hw : w ∈ D.superclassWords) :
    w = "extends" ∨ ∃ name ∈ D.superclass, w = ".".intercalate (segments name) := by
  rw [superclassWords_eq] at hw
  split at hw
  · cases hname : D.superclass with
    | none => simp [hname] at hw
    | some name => simpa [hname] using hw
  · cases hw

/-- The words of interfaces are the keyword and the names with commas between them. -/
lemma mem_interfaceWords {w : String} (hw : w ∈ D.interfaceWords) :
    w = interfacesKeyword D.kind ∨
      w = ",".intercalate (D.interfaces.map fun name => ".".intercalate (segments name)) := by
  rw [interfaceWords_eq] at hw
  split at hw
  · cases hw
  · exact List.mem_pair.1 hw

/-- There are no separators but commas in the words of a header. -/
lemma not_mem_headerWords (hD : D.WellFormed) {c : Char} (hc : c ∈ separators) (hcomma : c ≠ ',') :
    ∀ w ∈ D.headerWords, c ∉ w.toList := by
  have hword := isWordChar_of_mem_separators hc
  have hdot : c ≠ '.' := by
    obtain rfl | rfl | rfl | rfl := mem_separators_cases hc <;> decide
  intro w hw
  simp only [headerWords, List.append_assoc, List.mem_append, List.mem_pair] at hw
  obtain (rfl | rfl) | hw | hw := hw
  · exact not_mem_of_mem_reservedWords (kind_keyword_reserved _) hword
  · exact hD.simpleName.not_mem hword
  · obtain rfl | ⟨name, hname, rfl⟩ := mem_superclassWords hw
    · exact not_mem_of_mem_reservedWords (by decide) hword
    · exact (hD.superclass name hname).not_mem_dotted hword hdot
  · obtain rfl | rfl := mem_interfaceWords hw
    · exact not_mem_of_mem_reservedWords (by cases D.kind <;> decide) hword
    · refine not_mem_intercalate (by simpa using hcomma) ?_
      intro text htext
      obtain ⟨name, hname, rfl⟩ := List.mem_map.1 htext
      exact (hD.interfaces name hname).not_mem_dotted hword hdot

/-- The superclass and the interfaces are told apart by the words in front of them. -/
lemma supertypeWords_inj (hD : D.WellFormed) (hD' : D'.WellFormed) (hkind : D.kind = D'.kind)
    (h : D.superclassWords ++ D.interfaceWords = D'.superclassWords ++ D'.interfaceWords) :
    D.superclassWords = D'.superclassWords ∧ D.interfaceWords = D'.interfaceWords := by
  -- Only an ordinary class shows both, and then `implements` begins the interfaces.
  by_cases hordinary : D.kind = .ordinary
  · have hsuper : ∀ {E : TypedDeclaration}, E.WellFormed → ∀ w ∈ E.superclassWords, w ≠ "implements" := by
      intro E hE w hw
      obtain rfl | ⟨name, hname, rfl⟩ := mem_superclassWords hw
      · decide
      · intro heq
        exact (hE.superclass name hname).dotted_not_mem_reservedWords (heq ▸ by decide)
    have hinterfaces : ∀ {E : TypedDeclaration}, E.kind = .ordinary →
        ∀ w ∈ E.interfaceWords.head?, ¬ w ≠ "implements" := by
      intro E hE w hw
      rw [interfaceWords_eq] at hw
      split at hw
      · cases hw
      · cases hw
        rw [hE]
        exact not_not_intro rfl
    exact append_inj_of_forall (· ≠ "implements") h (hsuper hD) (hsuper hD') (hinterfaces hordinary)
      (hinterfaces (hkind ▸ hordinary))
  · have hnone : D.superclassWords = D'.superclassWords := by
      rw [superclassWords_eq, superclassWords_eq, ← hkind, if_neg hordinary, if_neg hordinary]
    rw [hnone] at h
    exact ⟨hnone, List.append_cancel_left h⟩

/-- The superclass of an ordinary class is known by its words. -/
lemma superclass_inj (hD : D.WellFormed) (hD' : D'.WellFormed) (hkind : D.kind = .ordinary)
    (hkind' : D'.kind = .ordinary) (h : D.superclassWords = D'.superclassWords) : D.superclass = D'.superclass := by
  rw [superclassWords_eq, superclassWords_eq, if_pos hkind, if_pos hkind'] at h
  cases hname : D.superclass with
  | none =>
    cases hname' : D'.superclass with
    | none => rfl
    | some name' => simp [hname, hname'] at h
  | some name =>
    cases hname' : D'.superclass with
    | none => simp [hname, hname'] at h
    | some name' =>
      have hdotted : ".".intercalate (segments name) = ".".intercalate (segments name') := by
        simpa [hname, hname'] using h
      rw [(hD.superclass name hname).dotted_inj (hD'.superclass name' hname') hdotted]

/-- The interfaces of a class that is no enum are known by their words. -/
lemma interfaces_inj (hD : D.WellFormed) (hD' : D'.WellFormed) (hkind : D.kind ≠ .enumeration)
    (hkind' : D'.kind ≠ .enumeration) (h : D.interfaceWords = D'.interfaceWords) : D.interfaces = D'.interfaces := by
  have hcomma : ∀ {E : TypedDeclaration}, E.WellFormed →
      ∀ text ∈ E.interfaces.map fun name => ".".intercalate (segments name), ',' ∉ text.toList := by
    intro E hE text htext
    obtain ⟨name, hname, rfl⟩ := List.mem_map.1 htext
    exact (hE.interfaces name hname).not_mem_dotted (by decide) (by decide)
  rw [interfaceWords_eq, interfaceWords_eq] at h
  by_cases hne : D.interfaces = []
  · by_cases hne' : D'.interfaces = []
    · rw [hne, hne']
    · simp [hne, hne', hkind'] at h
  · by_cases hne' : D'.interfaces = []
    · simp [hne, hne', hkind] at h
    · rw [if_neg (by simp [hne, hkind]), if_neg (by simp [hne', hkind'])] at h
      have hnames := intercalate_inj (c := ',') rfl (by simpa using hne) (by simpa using hne') (hcomma hD) (hcomma hD')
        (List.cons_eq_cons.1 (List.cons_eq_cons.1 h).2).1
      have hmap := map_eq_map_of_forall (fun name hname name' hname' heq =>
        (hD.interfaces name hname).dotted_inj (hD'.interfaces name' hname') heq) hnames
      simpa using hmap

/-- The line of a header is its modifiers, its words and an opening brace. -/
lemma headerLine_eq (D : TypedDeclaration) :
    D.headerLine = " ".intercalate (modifierWords D.bits ++ D.headerWords) ++ "\x7b" := by
  rw [headerLine, headerWords]
  simp only [List.append_assoc]

/-- A kind is known by its keyword. -/
lemma keyword_inj {kind kind' : ClassKind} (h : kind.keyword = kind'.keyword) : kind = kind' := by
  cases kind <;> cases kind' <;> first | rfl | exact absurd h (by decide)

/-- The modifiers, the kind, the name and the clauses of a class are known by the line of its header. -/
lemma headerLine_inj (hD : D.WellFormed) (hD' : D'.WellFormed) (h : D.headerLine = D'.headerLine) :
    modifierWords D.bits = modifierWords D'.bits ∧ D.kind = D'.kind ∧ D.simpleName = D'.simpleName ∧
      D.superclassWords = D'.superclassWords ∧ D.interfaceWords = D'.interfaceWords := by
  have hfirst : ∀ {E : TypedDeclaration}, ∀ w ∈ E.headerWords.head?, w ∉ modifierKeywords := by
    intro E w hw
    cases hw
    cases E.kind <;> decide
  rw [headerLine_eq, headerLine_eq, String.append_left_inj] at h
  obtain ⟨hmods, hwords⟩ := words_inj h (modifierWords_subset D.bits) (modifierWords_subset D'.bits)
    ⟨by simp [headerWords], not_mem_headerWords hD (by decide) (by decide)⟩
    ⟨by simp [headerWords], not_mem_headerWords hD' (by decide) (by decide)⟩ hfirst hfirst
  simp only [headerWords, List.cons_append, List.nil_append, List.cons.injEq] at hwords
  obtain ⟨hkeyword, hsimple, hsupertypes⟩ := hwords
  have hkind := keyword_inj hkeyword
  exact ⟨hmods, hkind, hsimple, supertypeWords_inj hD hD' hkind hsupertypes⟩

/-! ### Lines -/

/-- The methods that a well-formed class shows can be read back. -/
lemma WellFormed.readable (hD : D.WellFormed) {m : TypedMethod} (hm : m ∈ D.shownMethods) : m.Readable := by
  obtain ⟨hmem, hshown⟩ := List.mem_filter.1 hm
  have hinit : m.name ≠ Member.initializerName := by
    intro hname
    simp [hname, Member.initializerName] at hshown
  refine ⟨?_, hD.paramTypes m hmem, (hD.resultTypes m hmem).1⟩
  rcases hD.methodNames m hmem with hname | hname | hname
  · exact .inr hname
  · exact .inl hname
  · exact absurd hname hinit

/-- There are no newlines in the line of a package. -/
lemma newline_not_mem_packageLines (hD : D.WellFormed) : ∀ l ∈ D.packageLines, '\n' ∉ l.toList := by
  intro l hl
  rw [packageLines_eq] at hl
  split at hl
  · cases hl
  · have hpackage : '\n' ∉ (".".intercalate (segments D.name).dropLast).toList :=
      not_mem_intercalate (by decide) fun s hs => (hD.name s (List.dropLast_subset _ hs)).not_mem (by decide)
    rw [List.mem_singleton.1 hl]
    simpa using hpackage

/-- There are no newlines in the line of a header. -/
lemma newline_not_mem_headerLine (hD : D.WellFormed) : '\n' ∉ D.headerLine.toList := by
  have hwords := not_mem_intercalate (show '\n' ∉ " ".toList by decide)
    (not_mem_line_words (by decide) (modifierWords_subset D.bits) (not_mem_headerWords hD (by decide) (by decide)))
  rw [headerLine_eq]
  simpa using hwords

/-- The constants of a well-formed class are identifiers. -/
lemma WellFormed.constants (hD : D.WellFormed) : ∀ name ∈ D.constants, IsIdentifier name := by
  intro name hname
  obtain ⟨f, hf, rfl⟩ := List.mem_map.1 hname
  exact hD.fieldNames f (List.mem_filter.1 hf).1

/-- There are no newlines in the lines of fields. -/
lemma newline_not_mem_fieldLines (hD : D.WellFormed) : ∀ l ∈ D.fieldLines, '\n' ∉ l.toList := by
  have hfields : ∀ l ∈ D.fields.map TypedField.line, '\n' ∉ l.toList := by
    intro l hl
    obtain ⟨f, hf, rfl⟩ := List.mem_map.1 hl
    have hwords := not_mem_intercalate (show '\n' ∉ " ".toList by decide)
      (not_mem_line_words (by decide) (fieldWords_subset f.bits)
        (TypedField.not_mem_words (hD.fieldNames f hf) (hD.fieldTypes f hf) (by decide)))
    simpa [TypedField.line] using hwords
  intro l hl
  rw [fieldLines] at hl
  split at hl
  · have hconstants : '\n' ∉ (", ".intercalate D.constants).toList :=
      not_mem_intercalate (by decide) fun name hname => (hD.constants name hname).not_mem (by decide)
    rw [List.mem_singleton.1 hl]
    simpa using hconstants
  · exact hfields l hl

/-- There are no newlines in the line of a method. -/
lemma newline_not_mem_methodLine {className : String} (hclass : IsIdentifier className) {m : TypedMethod}
    (hm : m.Readable) : '\n' ∉ (m.line className).toList := by
  have hwords := not_mem_intercalate (show '\n' ∉ " ".toList by decide)
    (not_mem_line_words (by decide) (modifierWords_subset m.bits) (TypedMethod.not_mem_words hm hclass (by decide)))
  have hparams : '\n' ∉ (",".intercalate m.paramTexts).toList := by
    refine not_mem_intercalate (by decide) ?_
    intro text htext
    rw [TypedMethod.paramTexts_eq hm] at htext
    obtain ⟨param, hparam, rfl⟩ := List.mem_map.1 htext
    exact TypedMethod.not_mem_paramText (hm.params param.1 (List.fst_mem_of_mem_zipIdx hparam)) (by decide) (by decide)
  simp only [TypedMethod.line_eq, String.toList_append, List.mem_append, not_or]
  exact ⟨hwords, by decide, hparams, by decide⟩

/-- There are no newlines in the lines of a stub. -/
lemma newline_not_mem_lines (hD : D.WellFormed) : ∀ l ∈ D.lines, '\n' ∉ l.toList := by
  intro l hl
  simp only [lines, List.append_assoc, List.mem_append, List.mem_singleton] at hl
  obtain hl | rfl | hl | hl | rfl := hl
  · exact newline_not_mem_packageLines hD l hl
  · exact newline_not_mem_headerLine hD
  · exact newline_not_mem_fieldLines hD l hl
  · obtain ⟨m, hm, rfl⟩ := List.mem_map.1 hl
    exact newline_not_mem_methodLine hD.simpleName (hD.readable hm)
  · decide

/-- Every newline of a stub ends a line. -/
lemma lines_eq_of_print_eq (hD : D.WellFormed) (hD' : D'.WellFormed) (h : D.print = D'.print) :
    D.lines = D'.lines :=
  intercalate_inj (c := '\n') rfl (by simp [lines]) (by simp [lines]) (newline_not_mem_lines hD)
    (newline_not_mem_lines hD') h

/-- The line ends in a semicolon, as those of packages and fields do. -/
def EndsInSemicolon (l : String) : Prop := l.toList.getLast? = some ';'

/-- Whether a line ends in a semicolon is decided by its last character. -/
instance : DecidablePred EndsInSemicolon :=
  fun l => inferInstanceAs (Decidable (l.toList.getLast? = some ';'))

/-- A text ends in the last character of its last part. -/
lemma getLast?_toList_append {s last : String} {c : Char} (hlast : last.toList.getLast? = some c) :
    (s ++ last).toList.getLast? = some c := by
  rw [String.toList_append, List.getLast?_append, hlast, Option.some_or]

/-- The line of a package ends in a semicolon. -/
lemma packageLines_endInSemicolon (D : TypedDeclaration) : ∀ l ∈ D.packageLines, EndsInSemicolon l := by
  intro l hl
  rw [packageLines_eq] at hl
  split at hl
  · cases hl
  · rw [List.mem_singleton.1 hl]
    exact getLast?_toList_append rfl

/-- The line of a header does not end in a semicolon. -/
lemma headerLine_endsInBrace (D : TypedDeclaration) : ¬ EndsInSemicolon D.headerLine := by
  rw [EndsInSemicolon, headerLine, getLast?_toList_append (c := '\x7b') rfl]
  decide

/-- The lines of fields end in semicolons. -/
lemma fieldLines_endInSemicolon (D : TypedDeclaration) : ∀ l ∈ D.fieldLines, EndsInSemicolon l := by
  intro l hl
  rw [fieldLines] at hl
  split at hl
  · rw [List.mem_singleton.1 hl]
    exact getLast?_toList_append rfl
  · obtain ⟨f, hf, rfl⟩ := List.mem_map.1 hl
    exact getLast?_toList_append rfl

/-- What comes behind the fields does not begin with a line that ends in a semicolon. -/
lemma methodLines_endInBrace (D : TypedDeclaration) :
    ∀ l ∈ (D.shownMethods.map (TypedMethod.line D.simpleName) ++ ["\x7d"]).head?, ¬ EndsInSemicolon l := by
  intro l hl
  cases hshown : D.shownMethods with
  | nil =>
    rw [hshown] at hl
    cases hl
    decide
  | cons m ms =>
    rw [hshown] at hl
    cases hl
    rw [EndsInSemicolon, TypedMethod.line, getLast?_toList_append (c := '\x7d') rfl]
    decide

/-- The last characters of the lines tell the parts of a stub apart. -/
lemma lines_inj (h : D.lines = D'.lines) :
    D.packageLines = D'.packageLines ∧ D.headerLine = D'.headerLine ∧ D.fieldLines = D'.fieldLines ∧
      D.shownMethods.map (TypedMethod.line D.simpleName) = D'.shownMethods.map (TypedMethod.line D'.simpleName) := by
  have hheader : ∀ (E : TypedDeclaration) (ls : List String),
      ∀ l ∈ (E.headerLine :: ls).head?, ¬ EndsInSemicolon l := by
    intro E ls l hl
    cases hl
    exact E.headerLine_endsInBrace
  simp only [lines, List.append_assoc, List.singleton_append] at h
  obtain ⟨hpackageLines, hrest⟩ := append_inj_of_forall EndsInSemicolon h D.packageLines_endInSemicolon
    D'.packageLines_endInSemicolon (hheader D _) (hheader D' _)
  obtain ⟨hheaderLine, hbody⟩ := List.cons_eq_cons.1 hrest
  obtain ⟨hfieldLines, hmethodLines⟩ := append_inj_of_forall EndsInSemicolon hbody D.fieldLines_endInSemicolon
    D'.fieldLines_endInSemicolon D.methodLines_endInBrace D'.methodLines_endInBrace
  exact ⟨hpackageLines, hheaderLine, hfieldLines, List.append_cancel_right hmethodLines⟩

/-! ### The shown API -/

/-- The methods that a declaration emits are those that are shown. -/
lemma emitted_declaration (D : TypedDeclaration) :
    D.declaration.emitted = D.shownMethods.map TypedMethod.member := by
  rw [← D.filter_shows_declaration, Declaration.emitted]
  apply List.filter_congr
  intro member hmember
  obtain ⟨m, _, rfl⟩ := List.mem_map.1 hmember
  rw [TypedMethod.member, Signature.ofDescriptor?_spellMethod m.closed, Option.isSome_some, Bool.and_true]

/-- What a stub shows of fields is known by their lines, unless the class is an enum. -/
lemma fields_inj (hD : D.WellFormed) (hD' : D'.WellFormed) (hkind : D.kind ≠ .enumeration)
    (hkind' : D'.kind ≠ .enumeration) (h : D.fieldLines = D'.fieldLines) :
    (D.declaration.fields.map fun f => (f.access.fieldModifiers, f.descriptor, f.name)) =
      D'.declaration.fields.map fun f => (f.access.fieldModifiers, f.descriptor, f.name) := by
  have hlines : ∀ {E : TypedDeclaration}, E.kind ≠ .enumeration → E.fieldLines = E.fields.map TypedField.line := by
    intro E hE
    rw [fieldLines]
    split
    · contradiction
    · rfl
  rw [hlines hkind, hlines hkind'] at h
  simp only [declaration, List.map_map]
  refine map_eq_map_of_forall ?_ h
  intro f hf f' hf' hline
  obtain ⟨hmods, htype, hname⟩ := TypedField.line_inj (hD.fieldNames f hf) (hD'.fieldNames f' hf')
    (hD.fieldTypes f hf) (hD'.fieldTypes f' hf') hline
  simp only [Function.comp, TypedField.member, AccessFlags.fieldModifiers_eq, hmods, htype, hname]

/-- The constants of an enum are known by their line. -/
lemma constants_inj (hD : D.WellFormed) (hD' : D'.WellFormed) (hkind : D.kind = .enumeration)
    (hkind' : D'.kind = .enumeration) (h : D.fieldLines = D'.fieldLines) : D.constants = D'.constants := by
  have hparts : ∀ {E : TypedDeclaration}, E.WellFormed → ∀ name ∈ E.constants, name ≠ "" ∧ ',' ∉ name.toList := by
    intro E hE name hname
    exact ⟨(hE.constants name hname).ne_empty, (hE.constants name hname).not_mem (by decide)⟩
  simp only [fieldLines, hkind, hkind', List.cons.injEq, and_true, String.append_left_inj] at h
  exact intercalate_inj_of_ne_empty (c := ',') rfl (hparts hD) (hparts hD') h

/-- What a stub shows of methods is known by their lines. -/
lemma methods_inj (hD : D.WellFormed) (hD' : D'.WellFormed) (hsimple : D.simpleName = D'.simpleName)
    (h : D.shownMethods.map (TypedMethod.line D.simpleName) = D'.shownMethods.map (TypedMethod.line D'.simpleName)) :
    D.declaration.emitted.map Member.api = D'.declaration.emitted.map Member.api := by
  rw [emitted_declaration, emitted_declaration, List.map_map, List.map_map]
  rw [← hsimple] at h
  refine map_eq_map_of_forall ?_ h
  intro m hm m' hm' hline
  exact TypedMethod.line_inj hD.simpleName (hD.readable hm) (hD'.readable hm') hline

end TypedDeclaration

/-- The stub of a well-formed declaration determines its API. -/
theorem Declaration.api_eq_of_render_eq {d d' : Declaration} (hd : d.WellFormed) (hd' : d'.WellFormed)
    (h : d.render = d'.render) : d.api = d'.api := by
  obtain ⟨D, hD, rfl⟩ := hd
  obtain ⟨D', hD', rfl⟩ := hd'
  rw [D.render_declaration, D'.render_declaration] at h
  obtain ⟨hpackage, hheader, hfields, hmethods⟩ :=
    TypedDeclaration.lines_inj (TypedDeclaration.lines_eq_of_print_eq hD hD' h)
  obtain ⟨hmods, hkind, hsimple, hsuper, hinterfaces⟩ := TypedDeclaration.headerLine_inj hD hD' hheader
  have hname := TypedDeclaration.name_inj hD hD' hpackage hsimple
  -- With the kinds equal, each part is compared under the kind for which the stub shows it.
  simp only [Declaration.api, D.kind_declaration, D'.kind_declaration, ← hkind, D.constants_declaration,
    D'.constants_declaration, TypedDeclaration.methods_inj hD hD' hsimple hmethods, Api.mk.injEq, and_true, true_and]
  refine ⟨hname, ?_, ?_, ?_, ?_, ?_⟩
  · simp only [TypedDeclaration.declaration, AccessFlags.modifiers_eq, hmods]
  · split
    · exact TypedDeclaration.superclass_inj hD hD' ‹_› (hkind ▸ ‹_›) hsuper
    · rfl
  · split
    · rfl
    · exact TypedDeclaration.interfaces_inj hD hD' ‹_› (hkind ▸ ‹_›) hinterfaces
  · split
    · rfl
    · exact TypedDeclaration.fields_inj hD hD' ‹_› (hkind ▸ ‹_›) hfields
  · split
    · exact TypedDeclaration.constants_inj hD hD' ‹_› (hkind ▸ ‹_›) hfields
    · rfl

/-- A class with a package, supertypes, an array field, a constructor and a method. -/
def Stub.plainClass : TypedDeclaration where
  name := "a/b/C"
  bits := 0x0001
  superclass := some "a/B"
  interfaces := ["I", "a/J"]
  fields := [⟨0x0012, "x", ⟨2, .primitive .int⟩⟩]
  methods := [
    ⟨0x0001, "<init>", [⟨0, .primitive .long⟩], ⟨0, .void⟩, by decide⟩,
    ⟨0x0401, "f", [⟨0, .object "a/b/C" (by decide)⟩, ⟨1, .primitive .char⟩], ⟨0, .void⟩, by decide⟩]

/-- The class with what no stub shows: flags without a modifier and a static initializer. -/
def Stub.taggedClass : TypedDeclaration :=
  { plainClass with
    bits := 0x1021
    methods := ⟨0x0008, "<clinit>", [], ⟨0, .void⟩, by decide⟩ :: plainClass.methods }

/-- The class and the one with tags have the same stub, and so the same API. -/
theorem Declaration.api_plainClass_eq_api_taggedClass :
    Stub.plainClass.declaration ≠ Stub.taggedClass.declaration ∧
      Stub.plainClass.declaration.WellFormed ∧ Stub.taggedClass.declaration.WellFormed ∧
      Stub.plainClass.declaration.render = Stub.taggedClass.declaration.render ∧
      Stub.plainClass.declaration.api = Stub.taggedClass.declaration.api := by
  have hplain : Stub.plainClass.declaration.WellFormed :=
    ⟨Stub.plainClass, by constructor <;> decide, rfl⟩
  have htagged : Stub.taggedClass.declaration.WellFormed :=
    ⟨Stub.taggedClass, by constructor <;> decide, rfl⟩
  have hrender : Stub.plainClass.declaration.render = Stub.taggedClass.declaration.render := by
    have hlines : Stub.plainClass.lines = Stub.taggedClass.lines := by rfl
    rw [TypedDeclaration.render_declaration, TypedDeclaration.render_declaration, TypedDeclaration.print,
      TypedDeclaration.print, hlines]
  exact ⟨by decide, hplain, htagged, hrender, api_eq_of_render_eq hplain htagged hrender⟩

end ClassStub
