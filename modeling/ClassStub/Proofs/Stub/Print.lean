import Mathlib.Data.Nat.Bitwise
import ClassStub.Stub
import ClassStub.Proofs.ClassFile.Grammar
import ClassStub.Proofs.Descriptor.Spelling

/-!
# Stubs printed from types

A `TypedDeclaration` is a declaration with the types of its fields and methods in full. `TypedDeclaration.print`
writes its stub line by line, straight from the types and the bits of the flags. Rendering the declaration with
its types spelled as descriptors gives the same text, and so does generating the stub of any class file that
denotes this declaration, however its constants are laid out and whatever its attributes hold.
-/

namespace ClassStub

/-- A field with its type. -/
structure TypedField where
  bits : UInt16
  name : String
  type : TypeDescriptor

/-- A method with its types. No class path of a parameter holds a `)`, which would end the parameters. -/
structure TypedMethod where
  bits : UInt16
  name : String
  params : List TypeDescriptor
  result : TypeDescriptor
  closed : ∀ t ∈ params, ')' ∉ t.spell

/-- A declaration with its types. -/
structure TypedDeclaration where
  name : String
  bits : UInt16
  superclass : Option String
  interfaces : List String
  fields : List TypedField
  methods : List TypedMethod

/-- The field with its type spelled as a descriptor. -/
def TypedField.member (f : TypedField) : Member where
  access := ⟨f.bits⟩
  name := f.name
  descriptor := String.ofList f.type.spell

/-- The method with its types spelled as a descriptor. -/
def TypedMethod.member (m : TypedMethod) : Member where
  access := ⟨m.bits⟩
  name := m.name
  descriptor := String.ofList (spellMethod m.params m.result)

/-- The declaration with all types spelled as descriptors. -/
def TypedDeclaration.declaration (D : TypedDeclaration) : Declaration where
  name := D.name
  access := ⟨D.bits⟩
  superclass := D.superclass
  interfaces := D.interfaces
  fields := D.fields.map TypedField.member
  methods := D.methods.map TypedMethod.member

/-- The modifiers of a field: public before private before protected, then final, then static. -/
def fieldWords (bits : UInt16) : List String :=
  (if bits.toNat.testBit 0 then ["public"]
    else if bits.toNat.testBit 1 then ["private"]
    else if bits.toNat.testBit 2 then ["protected"]
    else []) ++
  (if bits.toNat.testBit 4 then ["final"] else []) ++
  (if bits.toNat.testBit 3 then ["static"] else [])

/-- The modifiers of a class or method: as those of a field, then abstract. -/
def modifierWords (bits : UInt16) : List String :=
  fieldWords bits ++ (if bits.toNat.testBit 10 then ["abstract"] else [])

/-- The line of a field. -/
def TypedField.line (f : TypedField) : String :=
  " ".intercalate (fieldWords f.bits ++ [f.type.text, f.name]) ++ ";"

/-- The parameters of a method, named after their positions; void ones are left out. -/
def TypedMethod.paramTexts (m : TypedMethod) : List String :=
  m.params.zipIdx.filterMap fun (t, i) => if t.isVoid then none else some (t.text ++ " a" ++ toString i)

/-- The line of a method in a class with a simple name. -/
def TypedMethod.line (className : String) (m : TypedMethod) : String :=
  let words := if m.name = "<init>" then [className] else [m.result.text, m.name]
  " ".intercalate (modifierWords m.bits ++ words) ++ "(" ++ ",".intercalate m.paramTexts ++ ")\x7b\x7d"

namespace TypedDeclaration

/-- The interface flag wins over the enum flag. -/
def kind (D : TypedDeclaration) : ClassKind :=
  if D.bits.toNat.testBit 9 then .interface else if D.bits.toNat.testBit 14 then .enumeration else .ordinary

/-- The last segment of the name. -/
def simpleName (D : TypedDeclaration) : String := (Text.segments D.name).getLast (Text.segments_ne_nil _)

/-- The line of the package, unless the name is one segment. -/
def packageLines (D : TypedDeclaration) : List String :=
  match (Text.segments D.name).dropLast with
  | [] => []
  | package => ["package " ++ ".".intercalate package ++ ";"]

/-- The superclass in the header, of an ordinary class only. -/
def superclassWords (D : TypedDeclaration) : List String :=
  match D.kind, D.superclass with
  | .ordinary, some name => ["extends", ".".intercalate (Text.segments name)]
  | _, _ => []

/-- The interfaces in the header, not of an enum. -/
def interfaceWords (D : TypedDeclaration) : List String :=
  let names := ",".intercalate (D.interfaces.map fun name => ".".intercalate (Text.segments name))
  match D.kind, D.interfaces with
  | .enumeration, _ => []
  | _, [] => []
  | .ordinary, _ => ["implements", names]
  | .interface, _ => ["extends", names]

/-- The line that opens the class. -/
def headerLine (D : TypedDeclaration) : String :=
  " ".intercalate (modifierWords D.bits ++ [D.kind.keyword, D.simpleName] ++ D.superclassWords ++ D.interfaceWords) ++
    "\x7b"

/-- The constants of an enum: the fields with the enum flag. -/
def constants (D : TypedDeclaration) : List String :=
  (D.fields.filter fun f => f.bits.toNat.testBit 14).map TypedField.name

/-- The lines of the fields; an enum has one line for all its constants. -/
def fieldLines (D : TypedDeclaration) : List String :=
  match D.kind with
  | .enumeration => [", ".intercalate D.constants ++ ";"]
  | _ => D.fields.map TypedField.line

/-- The methods that a stub shows: no static initializer, and no constructor of an enum. -/
def shownMethods (D : TypedDeclaration) : List TypedMethod :=
  D.methods.filter fun m => m.name ≠ "<clinit>" && !(D.kind = .enumeration && m.name = "<init>")

/-- The lines of a stub, of which the last is the closing brace. -/
def lines (D : TypedDeclaration) : List String :=
  D.packageLines ++ [D.headerLine] ++ D.fieldLines ++ D.shownMethods.map (TypedMethod.line D.simpleName) ++ ["\x7d"]

/-- The stub of a declaration. -/
def print (D : TypedDeclaration) : String := "\n".intercalate D.lines

end TypedDeclaration

namespace AccessFlags

/-- A flag of one bit is set when the bit is. -/
lemma has_eq_testBit (bits : UInt16) {mask : UInt16} {i : Nat} (hmask : mask.toNat = 2 ^ i) :
    (AccessFlags.mk bits).has mask = bits.toNat.testBit i := by
  have hand : (bits &&& mask).toNat = (bits.toNat.testBit i).toNat * 2 ^ i := by
    rw [UInt16.toNat_and, hmask, Nat.and_two_pow]
  rw [has, Bool.eq_iff_iff, beq_iff_eq, ← UInt16.toNat_inj, hand, hmask]
  cases bits.toNat.testBit i with
  | false => simp [Nat.ne_of_lt (Nat.two_pow_pos i)]
  | true => simp

/-- The modifiers of a field are its words. -/
lemma fieldModifiers_eq (bits : UInt16) : (AccessFlags.mk bits).fieldModifiers = fieldWords bits := by
  have hpublic : (AccessFlags.mk bits).has 0x0001 = bits.toNat.testBit 0 := has_eq_testBit bits rfl
  have hprivate : (AccessFlags.mk bits).has 0x0002 = bits.toNat.testBit 1 := has_eq_testBit bits rfl
  have hprotected : (AccessFlags.mk bits).has 0x0004 = bits.toNat.testBit 2 := has_eq_testBit bits rfl
  have hstatic : (AccessFlags.mk bits).has 0x0008 = bits.toNat.testBit 3 := has_eq_testBit bits rfl
  have hfinal : (AccessFlags.mk bits).has 0x0010 = bits.toNat.testBit 4 := has_eq_testBit bits rfl
  simp only [fieldModifiers, visibility?, isPublic, isPrivate, isProtected, isStatic, isFinal, hpublic, hprivate,
    hprotected, hstatic, hfinal, fieldWords]
  congr 2
  split
  · rfl
  · split
    · rfl
    · split <;> rfl

/-- The modifiers of a class or method are its words. -/
lemma modifiers_eq (bits : UInt16) : (AccessFlags.mk bits).modifiers = modifierWords bits := by
  have habstract : (AccessFlags.mk bits).has 0x0400 = bits.toNat.testBit 10 := has_eq_testBit bits rfl
  rw [modifiers, fieldModifiers_eq, isAbstract, habstract, modifierWords]

/-- The flag of an enum is bit 14. -/
lemma isEnum_eq (bits : UInt16) : (AccessFlags.mk bits).isEnum = bits.toNat.testBit 14 :=
  has_eq_testBit bits rfl

end AccessFlags

/-- Lines with newlines between them end in newlines but for the last one. -/
lemma intercalate_newline_concat (ls : List String) (last : String) :
    "\n".intercalate (ls ++ [last]) = String.join (ls.map (· ++ "\n")) ++ last := by
  induction ls with
  | nil => simp
  | cons l ls ih =>
    rw [List.cons_append, String.intercalate_cons_of_ne_nil (by simp), ih, List.map_cons, String.join_cons]
    simp only [String.append_assoc]

/-- Words in front of others stand in front of them with a blank, unless there are none behind. -/
lemma intercalate_append_words {words : List String} (more : List String) (hwords : words ≠ []) :
    " ".intercalate (words ++ more) =
      " ".intercalate words ++ if more = [] then "" else " " ++ " ".intercalate more := by
  by_cases hmore : more = []
  · simp [hmore]
  · rw [if_neg hmore, String.intercalate_append_of_ne_nil hwords hmore, String.append_assoc]

/-- A field is written as its line. -/
lemma TypedField.fieldLine_member (f : TypedField) : f.member.fieldLine = f.line ++ "\n" := by
  have hread := f.type.read_spell []
  rw [List.append_nil] at hread
  simp only [Member.fieldLine, TypedField.member, String.toList_ofList, hread, AccessFlags.fieldModifiers_eq,
    f.type.display_type, TypedField.line, String.append_assoc]
  rfl

/-- The list of parameters is the parameters with commas between them. -/
lemma TypedMethod.paramList_type (m : TypedMethod) :
    Signature.paramList ⟨m.params.map TypeDescriptor.type, m.result.type⟩ = ",".intercalate m.paramTexts := by
  rw [Signature.paramList, TypedMethod.paramTexts, List.zipIdx_map, List.filterMap_map]
  congr 1
  apply List.filterMap_congr
  intro pair _
  obtain ⟨t, i⟩ := pair
  simp only [Function.comp, Prod.map, id, t.isVoid_type, t.display_type]
  rfl

/-- A method is written as its line. -/
lemma TypedMethod.methodLine?_member (m : TypedMethod) (className : String) :
    m.member.methodLine? className = some (m.line className ++ "\n") := by
  rw [Member.methodLine?, TypedMethod.member, Signature.ofDescriptor?_spellMethod m.closed, Option.map_some]
  simp only [m.paramList_type, AccessFlags.modifiers_eq, m.result.display_type, TypedMethod.line,
    Member.isConstructor, Member.constructorName, beq_iff_eq, String.append_assoc]
  rfl

namespace TypedDeclaration

/-- The kind of a declaration is that of its flags. -/
lemma kind_declaration (D : TypedDeclaration) : D.declaration.kind = D.kind := by
  have hinterface : (AccessFlags.mk D.bits).has 0x0200 = D.bits.toNat.testBit 9 :=
    AccessFlags.has_eq_testBit D.bits rfl
  simp only [Declaration.kind, declaration, AccessFlags.kind, AccessFlags.isInterface, hinterface,
    AccessFlags.isEnum_eq, kind]

/-- The simple name of a declaration is the last segment of its name. -/
lemma simpleName_declaration (D : TypedDeclaration) : D.declaration.simpleName = D.simpleName :=
  D.declaration.simpleName_eq

/-- The line of the package is written as it is printed. -/
lemma packageLine_declaration (D : TypedDeclaration) :
    D.declaration.packageLine = String.join (D.packageLines.map (· ++ "\n")) := by
  rw [Declaration.packageLine, Declaration.packageName?_eq, packageLines,
    show D.declaration.name = D.name from rfl]
  cases (Text.segments D.name).dropLast with
  | nil => rfl
  | cons first others =>
    simp only [List.map_cons, List.map_nil, String.join_cons, String.join_nil, String.append_assoc]
    rfl

/-- The clause of the superclass is written as its words. -/
lemma superclassClause_declaration (D : TypedDeclaration) :
    D.declaration.superclassClause =
      if D.superclassWords = [] then "" else " " ++ " ".intercalate D.superclassWords := by
  rw [Declaration.superclassClause, D.kind_declaration, superclassWords]
  show (match D.kind, D.superclass with | .ordinary, some name => " extends " ++ dotted name | _, _ => "") = _
  cases D.kind <;> cases D.superclass <;> simp [dotted_eq_intercalate, ← String.append_assoc]

/-- The clause of the interfaces is written as its words. -/
lemma interfacesClause_declaration (D : TypedDeclaration) :
    D.declaration.interfacesClause =
      if D.interfaceWords = [] then "" else " " ++ " ".intercalate D.interfaceWords := by
  rw [Declaration.interfacesClause, D.kind_declaration, interfaceWords,
    show D.declaration.interfaces = D.interfaces from rfl, funext dotted_eq_intercalate]
  cases D.interfaces with
  | nil => cases D.kind <;> rfl
  | cons first others => cases D.kind <;> simp [← String.append_assoc]

/-- The header is written as its line. -/
lemma header_declaration (D : TypedDeclaration) : D.declaration.header = D.headerLine ++ "\n" := by
  rw [Declaration.header, D.superclassClause_declaration, D.interfacesClause_declaration, D.kind_declaration,
    D.simpleName_declaration, show D.declaration.access = ⟨D.bits⟩ from rfl, AccessFlags.modifiers_eq, headerLine,
    intercalate_append_words D.interfaceWords (by simp), intercalate_append_words D.superclassWords (by simp)]
  simp only [String.append_assoc]
  rfl

/-- The constants of an enum are the names of its fields with the flag for them. -/
lemma constants_declaration (D : TypedDeclaration) :
    (D.declaration.fields.filter fun f => f.access.isEnum).map Member.name = D.constants := by
  simp only [declaration, List.filter_map, List.map_map, constants]
  congr 1
  exact List.filter_congr fun f _ => AccessFlags.isEnum_eq f.bits

/-- The fields are written as their lines. -/
lemma fieldSection_declaration (D : TypedDeclaration) :
    D.declaration.fieldSection = String.join (D.fieldLines.map (· ++ "\n")) := by
  have hlines : D.declaration.fields.map Member.fieldLine = (D.fields.map TypedField.line).map (· ++ "\n") := by
    simp only [declaration, List.map_map]
    exact List.map_congr_left fun f _ => f.fieldLine_member
  rw [Declaration.fieldSection, D.kind_declaration, fieldLines]
  cases D.kind with
  | ordinary => exact congrArg String.join hlines
  | interface => exact congrArg String.join hlines
  | enumeration =>
    show D.declaration.constantsLine = _
    rw [Declaration.constantsLine, D.constants_declaration]
    simp [String.append_assoc]

/-- The methods that are shown are the same. -/
lemma filter_shows_declaration (D : TypedDeclaration) :
    D.declaration.methods.filter D.declaration.shows = D.shownMethods.map TypedMethod.member := by
  rw [show D.declaration.methods = D.methods.map TypedMethod.member from rfl, List.filter_map, shownMethods]
  congr 1
  apply List.filter_congr
  intro m _
  rw [Bool.eq_iff_iff]
  simp [Declaration.shows, D.kind_declaration, Member.isInitializer, Member.isConstructor, TypedMethod.member,
    Member.initializerName, Member.constructorName]

/-- The methods are written as their lines. -/
lemma methodSection_declaration (D : TypedDeclaration) :
    D.declaration.methodSection =
      String.join ((D.shownMethods.map (TypedMethod.line D.simpleName)).map (· ++ "\n")) := by
  rw [Declaration.methodSection, D.filter_shows_declaration, D.simpleName_declaration, List.filterMap_map, List.map_map]
  congr 1
  rw [← List.filterMap_eq_map]
  apply List.filterMap_congr
  intro m _
  exact m.methodLine?_member D.simpleName

/-- Rendering a declaration with its types spelled out is printing it from the types. -/
lemma render_declaration (D : TypedDeclaration) : D.declaration.render = D.print := by
  rw [print, lines, intercalate_newline_concat, Declaration.render, D.packageLine_declaration, D.header_declaration,
    D.fieldSection_declaration, D.methodSection_declaration]
  simp only [List.map_append, String.join_append, List.map_cons, List.map_nil, String.join_cons, String.join_nil,
    String.append_assoc, String.append_empty]

end TypedDeclaration

open ClassFile

/-- The stub of a class file that denotes a declaration is printed from the types of the declaration: nothing else
in the class file has a part in it. -/
theorem Stub.ofBytes_encode_eq_print (D : TypedDeclaration) (c : Layout) (henc : c.Encodable)
    (hnew : 45 ≤ c.majorVersion) (htexts : c.TextsDecode)
    (hdenotes : c.Denotes ⟨c.minorVersion, c.majorVersion, D.declaration⟩) :
    ofBytes c.encode = .ok (D.declaration, D.print) ∧ generate c.encode = (some D.declaration, D.print) := by
  have hresolve := Layout.resolve_eq_ok_iff.2 ⟨hnew, htexts, hdenotes⟩
  have hparse := parse_eq_ok_iff_resolve.2 ⟨c, henc, rfl, hresolve⟩
  have hbytes : ofBytes c.encode = .ok (D.declaration, D.print) := by
    rw [ofBytes, hparse, ← D.render_declaration]
    rfl
  exact ⟨hbytes, by rw [generate, hbytes]⟩

/-- A class file with a wide constant, a text that nothing refers to, attributes and a void parameter. -/
def Stub.sampleLayout : Layout where
  minorVersion := 3
  majorVersion := 52
  items := [
    .utf8 [97, 47, 66], .classRef 1, .other .long [0, 0, 0, 0, 0, 0, 0, 7], .utf8 [120], .utf8 [91, 73],
    .utf8 [102], .utf8 [40, 86, 74, 41, 76, 97, 47, 66, 59], .utf8 [0xC3, 0xA9]]
  access := 0x0021
  thisClass := 2
  superclass := 0
  interfaces := [2]
  fields := [⟨0x0412, 5, 6, [⟨9, [1, 2]⟩]⟩]
  methods := [⟨0x0401, 7, 8, []⟩]
  attributes := [⟨9, []⟩]

/-- What the sample denotes. -/
def Stub.sample : TypedDeclaration where
  name := "a/B"
  bits := 0x0021
  superclass := none
  interfaces := ["a/B"]
  fields := [⟨0x0412, "x", ⟨1, .primitive .int⟩⟩]
  methods := [⟨0x0401, "f", [⟨0, .void⟩, ⟨0, .primitive .long⟩], ⟨0, .object "a/B" (by decide)⟩, by decide⟩]

/-- The layout of the sample denotes the declaration of the sample. -/
lemma Stub.sampleLayout_denotes :
    sampleLayout.Denotes ⟨sampleLayout.minorVersion, sampleLayout.majorVersion, sample.declaration⟩ := by
  have htext : ∀ {i : UInt16} {encoded : Bytes} {text : String} (k : Nat),
      sampleLayout.items = sampleLayout.items.take k ++ Item.utf8 encoded :: sampleLayout.items.drop (k + 1) →
      i.toNat = 1 + Item.widths (sampleLayout.items.take k) →
      Text.ModifiedUtf8.decode encoded = some text → Item.NamesText sampleLayout.items i text :=
    fun k hitems hi hdecode => ⟨_, ⟨_, _, hitems, hi⟩, hdecode⟩
  have hclass : Item.NamesClass sampleLayout.items 2 "a/B" :=
    ⟨1, ⟨sampleLayout.items.take 1, sampleLayout.items.drop 2, rfl, rfl⟩, htext 0 rfl rfl rfl⟩
  refine ⟨rfl, rfl, rfl, hclass, rfl, .cons hclass .nil, .cons ⟨rfl, ?_, ?_⟩ .nil, .cons ⟨rfl, ?_, ?_⟩ .nil⟩
  · exact htext 3 rfl rfl rfl
  · exact htext 4 rfl rfl rfl
  · exact htext 5 rfl rfl rfl
  · exact htext 6 rfl rfl rfl

/-- The stub of the sample has a line for its field and one for its method. -/
theorem Stub.ofBytes_sampleLayout :
    sampleLayout.Encodable ∧ 45 ≤ sampleLayout.majorVersion ∧ sampleLayout.TextsDecode ∧
      ofBytes sampleLayout.encode = .ok (sample.declaration,
        "package a;\npublic class B implements a.B\x7b\nprivate final int[] x;\n" ++
          "public abstract a.B f(long a1)\x7b\x7d\n\x7d") := by
  have henc : sampleLayout.Encodable := by decide
  have hnew : 45 ≤ sampleLayout.majorVersion := by decide
  have htexts : sampleLayout.TextsDecode := by
    rw [← Layout.exists_pool_iff]
    exact ⟨_, rfl⟩
  exact ⟨henc, hnew, htexts,
    (ofBytes_encode_eq_print sample sampleLayout henc hnew htexts sampleLayout_denotes).1⟩

end ClassStub
