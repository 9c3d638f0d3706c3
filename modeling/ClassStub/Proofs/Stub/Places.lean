import Mathlib.Data.List.Basic
import ClassStub.Stub

/-!
# The places of members in a stub

A stub is put together from parts: what opens the class, a line for each field of a class or interface, a part for each
method (`Declaration.methodPart`), and the closing brace. A part depends on its member, on the kind of the class and on
its simple name, and on no other member. So another member puts its own part in between the parts of its neighbours, or
changes nothing if it has none.
-/

namespace ClassStub

/-- Two texts are the same, except that the new one has another segment between what is in front and what is behind. -/
structure Inserts (old new front segment back : String) : Prop where
  old_eq : old = front ++ back
  new_eq : new = front ++ segment ++ back

/-- The segments of members, one after the other. -/
def joinSegments (segment : Member → String) (members : List Member) : String := String.join (members.map segment)

/-- A member more puts its segment between those of its neighbours. -/
lemma inserts_joinSegments (segment : Member → String) (front back : String) (before after : List Member)
    (m : Member) :
    Inserts (front ++ joinSegments segment (before ++ after) ++ back)
      (front ++ joinSegments segment (before ++ m :: after) ++ back)
      (front ++ joinSegments segment before) (segment m) (joinSegments segment after ++ back) where
  old_eq := by
    rw [joinSegments, List.map_append, String.join_append]
    simp only [String.append_assoc]
    rfl
  new_eq := by
    rw [joinSegments, List.map_append, String.join_append, List.map_cons, String.join_cons]
    simp only [String.append_assoc]
    rfl

namespace Declaration

variable {d : Declaration} {m : Member}

/-- The class with other fields. -/
def withFields (d : Declaration) (fields : List Member) : Declaration := { d with fields }

/-- The class with other methods. -/
def withMethods (d : Declaration) (methods : List Member) : Declaration := { d with methods }

/-- The method is not in the stub: it initializes the class, or makes the constants of an enum, or its descriptor has
no end of the parameters. -/
def LeavesOut (d : Declaration) (m : Member) : Prop :=
  m.name = "<clinit>" ∨ (d.kind = .enumeration ∧ m.name = "<init>") ∨ ')' ∉ m.descriptor.toList

/-- The part of a method in the stub, empty if the stub leaves it out. -/
def methodPart (d : Declaration) (m : Member) : String :=
  if d.shows m then (m.methodLine? d.simpleName).getD "" else ""

/-- The part of a stub in front of its members. -/
def opening (d : Declaration) : String := d.packageLine ++ d.header

/-! ### Parts of methods -/

/-- The lines of methods are their parts one after the other. -/
lemma join_methodLines (d : Declaration) (methods : List Member) :
    String.join ((methods.filter d.shows).filterMap (Member.methodLine? d.simpleName)) =
      joinSegments d.methodPart methods := by
  rw [joinSegments]
  induction methods with
  | nil => rfl
  | cons m methods ih =>
    rw [List.map_cons, String.join_cons, methodPart, ← ih, List.filter_cons]
    by_cases hshows : d.shows m = true
    · rw [if_pos hshows, if_pos hshows, List.filterMap_cons]
      cases m.methodLine? d.simpleName with
      | none => rw [Option.getD_none, String.empty_append]
      | some line => rw [Option.getD_some, String.join_cons]
    · rw [if_neg hshows, if_neg hshows, String.empty_append]

/-- A method is shown unless it initializes the class or makes the constants of an enum. -/
lemma shows_iff : d.shows m = true ↔ m.name ≠ "<clinit>" ∧ ¬ (d.kind = .enumeration ∧ m.name = "<init>") := by
  simp [shows, Member.isInitializer, Member.isConstructor, Member.initializerName, Member.constructorName,
    imp_iff_not_or]

/-- The line of a method with an end of its parameters ends in an empty body. -/
lemma exists_methodLine? (h : ')' ∈ m.descriptor.toList) (className : String) :
    ∃ line, m.methodLine? className = some (line ++ "\x7b\x7d\n") := by
  have hend : ∀ front : String, front ++ ")\x7b\x7d\n" = front ++ ")" ++ "\x7b\x7d\n" := by
    intro front
    rw [String.append_assoc]
    rfl
  obtain ⟨signature, hsignature⟩ : ∃ signature, Signature.ofDescriptor? m.descriptor = some signature :=
    ⟨_, if_pos h⟩
  rw [Member.methodLine?, hsignature, Option.map_some]
  exact ⟨_, congrArg some (hend _)⟩

/-- A method without an end of its parameters has no line. -/
lemma methodLine?_eq_none (h : ')' ∉ m.descriptor.toList) (className : String) : m.methodLine? className = none := by
  rw [Member.methodLine?, Signature.ofDescriptor?, if_neg h, Option.map_none]

/-- A method that is left out has no part in the stub. -/
lemma methodPart_of_leavesOut (h : d.LeavesOut m) : d.methodPart m = "" := by
  rw [methodPart]
  split
  · rename_i hshows
    obtain ⟨hinitializer, hconstructor⟩ := shows_iff.1 hshows
    have hopen : ')' ∉ m.descriptor.toList := (h.resolve_left hinitializer).resolve_left hconstructor
    rw [methodLine?_eq_none hopen, Option.getD_none]
  · rfl

/-- A method that is not left out has a line for its part. -/
lemma methodPart_of_not_leavesOut (h : ¬ d.LeavesOut m) : ∃ line, d.methodPart m = line ++ "\x7b\x7d\n" := by
  obtain ⟨hinitializer, hother⟩ := not_or.1 h
  obtain ⟨hconstructor, hclosed⟩ := not_or.1 hother
  obtain ⟨line, hline⟩ := exists_methodLine? (not_not.1 hclosed) d.simpleName
  refine ⟨line, ?_⟩
  rw [methodPart, if_pos (shows_iff.2 ⟨hinitializer, hconstructor⟩), hline, Option.getD_some]

/-! ### Stubs with other members -/

/-- With other methods, a stub has other parts behind its fields. -/
lemma render_withMethods (d : Declaration) (methods : List Member) :
    (d.withMethods methods).render =
      d.opening ++ d.fieldSection ++ joinSegments d.methodPart methods ++ "\x7d" := by
  rw [← d.join_methodLines methods]
  rfl

/-- With other fields, a stub has other lines behind its header, unless it is that of an enum. -/
lemma render_withFields (hkind : d.kind ≠ .enumeration) (fields : List Member) :
    (d.withFields fields).render =
      d.opening ++ joinSegments Member.fieldLine fields ++ (d.methodSection ++ "\x7d") := by
  have hsection : (d.withFields fields).fieldSection = joinSegments Member.fieldLine fields := by
    rw [fieldSection, show (d.withFields fields).kind = d.kind from rfl]
    cases hd : d.kind with
    | ordinary => rfl
    | interface => rfl
    | enumeration => exact absurd hd hkind
  rw [render, hsection, String.append_assoc]
  rfl

/-- An enum lists the fields with the enum flag and no others. -/
lemma render_withFields_of_not_isEnum (before after : List Member) (hkind : d.kind = .enumeration)
    (hm : m.access.isEnum = false) :
    (d.withFields (before ++ m :: after)).render = (d.withFields (before ++ after)).render := by
  have hsection : ∀ fields, (d.withFields fields).fieldSection = (d.withFields fields).constantsLine := by
    intro fields
    rw [fieldSection, show (d.withFields fields).kind = d.kind from rfl, hkind]
  have hconstants : (d.withFields (before ++ m :: after)).constantsLine =
      (d.withFields (before ++ after)).constantsLine := by
    simp only [constantsLine, withFields, List.filter_append, List.filter_cons, hm, Bool.false_eq_true, if_false]
  rw [render, render, hsection, hsection, hconstants]
  rfl

/-- Each member changes a stub in its own place only. A method that is left out changes nothing, wherever it is put in.
Any other method adds one segment, which ends its line with an empty body, between the segments of the methods in front
of it and of those behind it. So does a field of a class or interface, whose line ends with a semicolon whatever its
descriptor is. A field of an enum that is no constant changes nothing. -/
theorem members_keep_their_places (d : Declaration) (before after : List Member) (m : Member) :
    (d.LeavesOut m → (d.withMethods (before ++ m :: after)).render = (d.withMethods (before ++ after)).render) ∧
      (¬ d.LeavesOut m →
        Inserts (d.withMethods (before ++ after)).render (d.withMethods (before ++ m :: after)).render
          (d.opening ++ d.fieldSection ++ joinSegments d.methodPart before) (d.methodPart m)
          (joinSegments d.methodPart after ++ "\x7d") ∧
        ∃ line, d.methodPart m = line ++ "\x7b\x7d\n") ∧
      (d.kind ≠ .enumeration →
        Inserts (d.withFields (before ++ after)).render (d.withFields (before ++ m :: after)).render
          (d.opening ++ joinSegments Member.fieldLine before) m.fieldLine
          (joinSegments Member.fieldLine after ++ (d.methodSection ++ "\x7d")) ∧
        ∃ line, m.fieldLine = line ++ ";\n") ∧
      (d.kind = .enumeration → m.access.isEnum = false →
        (d.withFields (before ++ m :: after)).render = (d.withFields (before ++ after)).render) := by
  have hmethod := inserts_joinSegments d.methodPart (d.opening ++ d.fieldSection) "\x7d" before after m
  rw [← render_withMethods, ← render_withMethods] at hmethod
  refine ⟨?_, ?_, ?_, ?_⟩
  · intro hleft
    rw [hmethod.new_eq, methodPart_of_leavesOut hleft, String.append_empty, hmethod.old_eq]
  · intro hkept
    exact ⟨hmethod, methodPart_of_not_leavesOut hkept⟩
  · intro hkind
    rw [render_withFields hkind, render_withFields hkind]
    exact ⟨inserts_joinSegments Member.fieldLine d.opening (d.methodSection ++ "\x7d") before after m, _, rfl⟩
  · intro hkind hm
    exact render_withFields_of_not_isEnum before after hkind hm

/-- A class without members. -/
def emptyClass : Declaration := ⟨"a/B", ⟨0x0021⟩, none, [], [], []⟩

/-- An enum without members. -/
def emptyEnum : Declaration := ⟨"a/B", ⟨0x4031⟩, none, [], [], []⟩

/-- A getter. -/
def getter : Member := ⟨⟨0x0001⟩, "get", "()I"⟩

/-- A method whose parameters do not end. -/
def unclosedMethod : Member := ⟨⟨0x0001⟩, "f", "(I"⟩

/-- A constructor with a parameter that is no type. -/
def voidConstructor : Member := ⟨⟨0x0001⟩, "<init>", "(V)V"⟩

/-- A field without a type. -/
def untypedField : Member := ⟨⟨0x0002⟩, "x", ""⟩

/-- Between two getters, a method that is left out and one that is not; and a field in a class and in an enum. -/
theorem members_between_getters :
    (emptyClass.LeavesOut unclosedMethod ∧ (emptyClass.withMethods [getter, unclosedMethod, getter]).render =
      (emptyClass.withMethods [getter, getter]).render) ∧
    (¬ emptyClass.LeavesOut voidConstructor ∧ ∃ front back,
      (emptyClass.withMethods [getter, getter]).render = front ++ back ∧
      (emptyClass.withMethods [getter, voidConstructor, getter]).render = front ++ "public B()\x7b\x7d\n" ++ back) ∧
    (emptyClass.kind ≠ .enumeration ∧ ∃ front back,
      (emptyClass.withFields [untypedField]).render = front ++ "private void x;\n" ++ back) ∧
    (emptyEnum.kind = .enumeration ∧ untypedField.access.isEnum = false ∧
      (emptyEnum.withFields [untypedField]).render = (emptyEnum.withFields []).render) := by
  have hleft : emptyClass.LeavesOut unclosedMethod := .inr (.inr (by decide))
  have hkept : ¬ emptyClass.LeavesOut voidConstructor := by
    unfold LeavesOut
    decide
  have hordinary : emptyClass.kind ≠ .enumeration := by decide
  have henum : emptyEnum.kind = .enumeration := by decide
  obtain ⟨hsame, -⟩ := members_keep_their_places emptyClass [getter] [getter] unclosedMethod
  obtain ⟨-, hmethod, -⟩ := members_keep_their_places emptyClass [getter] [getter] voidConstructor
  obtain ⟨-, -, hfield, -⟩ := members_keep_their_places emptyClass [] [] untypedField
  obtain ⟨-, -, -, hconstant⟩ := members_keep_their_places emptyEnum [] [] untypedField
  have hpart : emptyClass.methodPart voidConstructor = "public B()\x7b\x7d\n" := by decide +kernel
  have hline : untypedField.fieldLine = "private void x;\n" := by decide +kernel
  obtain ⟨⟨hold, hnew⟩, -⟩ := hmethod hkept
  rw [hpart] at hnew
  have hnewField := (hfield hordinary).1.new_eq
  rw [hline] at hnewField
  exact ⟨⟨hleft, hsame hleft⟩, ⟨hkept, _, _, hold, hnew⟩, ⟨hordinary, _, _, hnewField⟩,
    henum, by decide, hconstant henum (by decide)⟩

end Declaration

end ClassStub
