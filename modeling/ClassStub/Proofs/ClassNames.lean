import ClassStub.Proofs.ClassFile.Grammar
import ClassStub.Proofs.SourceFile
import ClassStub.Settings.Basic

/-!
# The names of a class

A class has an internal name, and several names that are made of it: the simple name, the name of its package, its
binary name, and the path of its source file. Selections look at the internal name by themselves. All of them see the
same segments: the last one is the simple name, the others are the package, and where no segment is empty or has a dot
the path is the internal name again.
-/

namespace ClassStub

namespace Declaration

variable (d : Declaration)

/-- The last segment of a class name is the simple name. -/
lemma getLast?_segments : (Text.segments d.name).getLast? = some d.simpleName := by
  rw [List.getLast?_eq_some_getLast (Text.segments_ne_nil _), d.simpleName_eq]

/-- The segments of a class name are those of the package, and the simple name. -/
lemma segments_eq_concat : Text.segments d.name = (Text.segments d.name).dropLast ++ [d.simpleName] := by
  rw [d.simpleName_eq, List.dropLast_append_getLast]

/-- Without a package, the binary name is the simple name. -/
lemma binaryName_of_no_package (h : d.packageName? = none) : d.binaryName = d.simpleName := by
  have hfront : (Text.segments d.name).dropLast = [] := by
    by_contra hne
    rw [d.packageName?_eq, if_neg hne] at h
    cases h
  rw [binaryName, dotted_eq_intercalate, d.segments_eq_concat, hfront, List.nil_append, String.intercalate_singleton]

/-- In a package, the binary name is the simple name behind that of the package. -/
lemma binaryName_of_package {package : String} (h : d.packageName? = some package) :
    d.binaryName = package ++ "." ++ d.simpleName := by
  rw [d.packageName?_eq] at h
  split at h
  · cases h
  · rename_i hne
    cases h
    rw [binaryName, dotted_eq_intercalate, d.segments_eq_concat,
      String.intercalate_append_of_ne_nil hne (List.cons_ne_nil _ _), String.intercalate_singleton,
      List.dropLast_concat]

end Declaration

/-- Settings without nested classes and without patterns let a class through by its simple name. -/
lemma StubSettings.selection_of_no_patterns :
    selection { includeNested := false, exclude := [] } = .ok { includeNested := false, excluded := [] } := rfl

/-- A selection takes a class for nested by its simple name, although it cuts the internal name by itself. -/
lemma Selection.isNested_iff (d : Declaration) : isNested d.name = true ↔ '$' ∈ d.simpleName.toList := by
  rw [isNested, Text.head?_rsplit, Option.getD_some, decide_eq_true_iff, Declaration.simpleName, String.toList_ofList]

/-- A selection without patterns that leaves out nested classes lets through those without a `$` in the simple name. -/
lemma Selection.allows_of_no_patterns (d : Declaration) :
    allows { includeNested := false, excluded := [] } d.name = true ↔ '$' ∉ d.simpleName.toList := by
  rw [← isNested_iff]
  simp [allows, excludes]

namespace SourceFile

/-- The source file of class bytes is that of the declaration in them. -/
lemma ofBytes?_of_ofBytes {bytes : Bytes} {d : Declaration} {text : String} (h : Stub.ofBytes bytes = .ok (d, text)) :
    ofBytes? bytes = some (ofDeclaration d text) := by
  rw [ofBytes?, Stub.generate, h]

/-- The path of a source file is its steps with slashes between them. -/
lemma text_relativePath (d : Declaration) (text : String) :
    (ofDeclaration d text).relativePath.text = "/".intercalate (ofDeclaration d text).relativePath.steps := by
  obtain ⟨hpath, hnames⟩ := relativePath_ofDeclaration d text
  rw [hpath, Path.steps_ofNames hnames, Path.ofNames]

/-- Source files of classes with different plain names lie in different places, however the paths are written. -/
lemma steps_relativePath_ne {d d' : Declaration} (h : IsPlain d.name) (h' : IsPlain d'.name) (hne : d.name ≠ d'.name)
    (text text' : String) :
    (ofDeclaration d text).relativePath.steps ≠ (ofDeclaration d' text').relativePath.steps := by
  intro hsteps
  have htext : d.name ++ ".java" = d'.name ++ ".java" := by
    calc d.name ++ ".java" = (ofDeclaration d text).relativePath.text := by rw [relativePath_of_isPlain h]
      _ = (ofDeclaration d' text').relativePath.text := by rw [text_relativePath, hsteps, ← text_relativePath]
      _ = d'.name ++ ".java" := by rw [relativePath_of_isPlain h']
  exact hne (String.append_left_inj ".java" |>.1 htext)

end SourceFile

/-- The names of a class agree. The simple name is the last segment of the internal name, and has no slash; the binary
name is the simple name behind that of the package. Where nested classes are left out and nothing else, a class is let
through exactly if there is no `$` in its simple name. If no segment is empty or has a dot, the source file of the class
lies where the internal name says, so that classes with such names never have their source files in one place. -/
theorem Declaration.names_agree (d : Declaration) :
    (Text.segments d.name).getLast? = some d.simpleName ∧ '/' ∉ d.simpleName.toList ∧
      (d.packageName? = none → d.binaryName = d.simpleName) ∧
      (∀ package, d.packageName? = some package → d.binaryName = package ++ "." ++ d.simpleName) ∧
      (∃ selection, StubSettings.selection { includeNested := false, exclude := [] } = .ok selection ∧
        (selection.allows d.name = true ↔ '$' ∉ d.simpleName.toList)) ∧
      (SourceFile.IsPlain d.name →
        (∀ text, (SourceFile.ofDeclaration d text).relativePath = ⟨d.name ++ ".java"⟩) ∧
        (∀ bytes text, Stub.ofBytes bytes = .ok (d, text) →
          ∃ source, SourceFile.ofBytes? bytes = some source ∧ source.relativePath = ⟨d.name ++ ".java"⟩) ∧
        ∀ (d' : Declaration) (text text' : String), SourceFile.IsPlain d'.name → d.name ≠ d'.name →
          (SourceFile.ofDeclaration d text).relativePath.steps ≠
            (SourceFile.ofDeclaration d' text').relativePath.steps) := by
  refine ⟨d.getLast?_segments, d.slash_not_mem_simpleName, d.binaryName_of_no_package,
    fun _ hpackage => d.binaryName_of_package hpackage,
    ⟨_, StubSettings.selection_of_no_patterns, Selection.allows_of_no_patterns d⟩, ?_⟩
  intro hplain
  refine ⟨SourceFile.relativePath_of_isPlain hplain, ?_, ?_⟩
  · intro bytes text hbytes
    exact ⟨_, SourceFile.ofBytes?_of_ofBytes hbytes, SourceFile.relativePath_of_isPlain hplain text⟩
  · intro d' text text' hplain' hne
    exact SourceFile.steps_relativePath_ne hplain hplain' hne text text'

/-- The class file of a nested class in a package. -/
def nestedLayout : ClassFile.Layout where
  minorVersion := 0
  majorVersion := 52
  items := [.utf8 [97, 47, 66, 36, 67], .classRef 1]
  access := 0x0021
  thisClass := 2
  superclass := 0
  interfaces := []
  fields := []
  methods := []
  attributes := []

/-- The nested class `C` of the class `B` in the package `a`. -/
def Declaration.nestedClass : Declaration := ⟨"a/B$C", ⟨0x0021⟩, none, [], [], []⟩

/-- A class of the default package. -/
def Declaration.singleClass : Declaration := ⟨"B", ⟨0x0021⟩, none, [], [], []⟩

/-- The names agree for the class in the package and for that of the default package, and their source files lie apart.
-/
theorem Declaration.nestedClass_names_agree :
    nestedClass.packageName? = some "a" ∧ nestedClass.binaryName = "a" ++ "." ++ nestedClass.simpleName ∧
      singleClass.packageName? = none ∧ singleClass.binaryName = singleClass.simpleName ∧
      SourceFile.IsPlain nestedClass.name ∧ SourceFile.IsPlain singleClass.name ∧
      nestedClass.name ≠ singleClass.name ∧
      (SourceFile.ofDeclaration nestedClass "").relativePath.steps ≠
        (SourceFile.ofDeclaration singleClass "").relativePath.steps ∧
      Stub.ofBytes nestedLayout.encode = .ok (nestedClass, nestedClass.render) ∧
      ∃ source, SourceFile.ofBytes? nestedLayout.encode = some source ∧ source.relativePath = ⟨"a/B$C.java"⟩ := by
  have hparse : ClassFile.parse nestedLayout.encode = .ok ⟨0, 52, nestedClass⟩ :=
    ClassFile.parse_eq_ok_iff_resolve.2 ⟨nestedLayout, by decide, rfl, rfl⟩
  have hbytes : Stub.ofBytes nestedLayout.encode = .ok (nestedClass, nestedClass.render) := by
    rw [Stub.ofBytes, hparse]
    rfl
  have hpackage : nestedClass.packageName? = some "a" := by decide
  have hnone : singleClass.packageName? = none := by decide
  have hplain : SourceFile.IsPlain nestedClass.name := by
    unfold SourceFile.IsPlain
    decide
  have hplain' : SourceFile.IsPlain singleClass.name := by
    unfold SourceFile.IsPlain
    decide
  have hne : nestedClass.name ≠ singleClass.name := by decide
  obtain ⟨-, -, -, hbinary, -, hpath⟩ := names_agree nestedClass
  obtain ⟨-, hsource, hpaths⟩ := hpath hplain
  obtain ⟨-, -, hbinary', -⟩ := names_agree singleClass
  exact ⟨hpackage, hbinary "a" hpackage, hnone, hbinary' hnone, hplain, hplain', hne,
    hpaths singleClass "" "" hplain' hne, hbytes, hsource nestedLayout.encode nestedClass.render hbytes⟩

end ClassStub
