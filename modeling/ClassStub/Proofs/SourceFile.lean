import ClassStub.SourceFile
import ClassStub.Proofs.Path

/-!
# Where source files lie

The path of a source file is made of the segments of its package and the name of its file. It can lead anywhere when
these hold slashes. The source file of a class holds none: the package has dots for the slashes of the class name,
and the class name is cut behind the last one. So whatever name a class declares, its source file stays below the
directory that it is put in.
-/

namespace ClassStub

/-- There is no slash in a simple name. -/
lemma Declaration.slash_not_mem_simpleName (d : Declaration) : '/' ∉ d.simpleName.toList := by
  rw [simpleName, String.toList_ofList, Text.lastSegment]
  cases hcut : Text.rsplit? '/' d.name.toList with
  | none => exact Text.rsplit?_eq_none_iff.1 hcut
  | some parts => exact (Text.rsplit?_eq_some hcut).2

namespace SourceFile

/-- The names along the path of a source file. -/
def names (s : SourceFile) : List String := s.directories ++ [s.className ++ ".java"]

/-- The source file stays below any directory that it is put in: its path is relative, each step of it names
something right below, the last one a Java file, and appended to a directory it adds just these steps. -/
def StaysBelow (s : SourceFile) : Prop :=
  ∃ names : List String, (∀ name ∈ names, Path.IsName name) ∧ (∃ stem, names.getLast? = some (stem ++ ".java")) ∧
    s.relativePath.isAbsolute = false ∧ s.relativePath.text = "/".intercalate names ∧
    ∀ dir : Path, (dir.join s.relativePath).Continues dir names

/-- A segment of a package without slashes is a name: it is not empty, and it has no dots. -/
lemma isName_of_mem_directories {s : SourceFile} (hpackage : '/' ∉ s.package.toList) {name : String}
    (h : name ∈ s.directories) : Path.IsName name := by
  obtain ⟨segment, hsegment, rfl⟩ := List.mem_map.1 h
  obtain ⟨hmem, hne⟩ := List.mem_filter.1 hsegment
  obtain ⟨hdot, hchars⟩ := Text.of_mem_splitOn hmem
  have hdot' : '.' ∉ (String.ofList segment).toList := by rwa [String.toList_ofList]
  refine ⟨?_, ?_, ?_, ?_⟩
  · simpa using hne
  · intro heq
    exact hdot' (heq ▸ by decide)
  · intro heq
    exact hdot' (heq ▸ by decide)
  · rw [String.toList_ofList]
    exact fun hslash => hpackage (hchars _ hslash)

/-- A Java file is neither the directory that it is in nor the one above, however the class is called. -/
lemma isName_java {className : String} (h : '/' ∉ className.toList) : Path.IsName (className ++ ".java") := by
  have hlen : 5 ≤ (className ++ ".java").toList.length := by simp
  have hne : ∀ {other : String}, other.toList.length < 5 → className ++ ".java" ≠ other := by
    rintro other hother rfl
    omega
  refine ⟨hne (by decide), hne (by decide), hne (by decide), ?_⟩
  rw [String.toList_append, List.mem_append, not_or]
  exact ⟨h, by decide⟩

/-- The names along the path of a source file without slashes are names. -/
lemma isName_of_mem_names {s : SourceFile} (hpackage : '/' ∉ s.package.toList) (hclass : '/' ∉ s.className.toList)
    {name : String} (h : name ∈ s.names) : Path.IsName name := by
  rcases List.mem_append.1 h with hdir | hfile
  · exact isName_of_mem_directories hpackage hdir
  · exact List.mem_singleton.1 hfile ▸ isName_java hclass

/-- Without slashes in its package and class name, the path of a source file goes along its names. -/
lemma relativePath_eq_ofNames {s : SourceFile} (hpackage : '/' ∉ s.package.toList)
    (hclass : '/' ∉ s.className.toList) : s.relativePath = Path.ofNames s.names := by
  have hdirs : ∀ name ∈ s.directories, Path.IsName name := fun name h => isName_of_mem_directories hpackage h
  have hfold := Path.foldl_join_ofNames (List.forall_mem_nil Path.IsName) hdirs
  rw [List.nil_append] at hfold
  rw [relativePath, show (⟨""⟩ : Path) = Path.ofNames [] from rfl, hfold,
    Path.ofNames_join hdirs (isName_java hclass), names]

/-- A source file without slashes stays below. -/
lemma staysBelow_of_not_mem {s : SourceFile} (hpackage : '/' ∉ s.package.toList)
    (hclass : '/' ∉ s.className.toList) : s.StaysBelow := by
  have hnames : ∀ name ∈ s.names, Path.IsName name := fun name h => isName_of_mem_names hpackage hclass h
  have hpath := relativePath_eq_ofNames hpackage hclass
  refine ⟨s.names, hnames, ⟨s.className, by simp [names]⟩, ?_, ?_, ?_⟩
  · rw [hpath]
    exact Path.isAbsolute_ofNames hnames
  · rw [hpath, Path.ofNames]
  · intro dir
    rw [hpath]
    exact Path.continues_join hnames dir

/-- There is no slash in the package of a source file. -/
lemma slash_not_mem_package (d : Declaration) (text : String) : '/' ∉ (ofDeclaration d text).package.toList := by
  show '/' ∉ (d.packageName?.getD "").toList
  cases hpackage : d.packageName? with
  | none => simp
  | some package =>
    obtain ⟨parts, _, rfl⟩ := Option.map_eq_some_iff.1 hpackage
    exact slash_not_mem_dotted _

/-- The source file of a class stays below, whatever name the class has. -/
lemma staysBelow_ofDeclaration (d : Declaration) (text : String) : (ofDeclaration d text).StaysBelow :=
  staysBelow_of_not_mem (slash_not_mem_package d text) d.slash_not_mem_simpleName

/-- The path of a source file goes along its names. -/
lemma relativePath_ofDeclaration (d : Declaration) (text : String) :
    (ofDeclaration d text).relativePath = Path.ofNames (ofDeclaration d text).names ∧
      ∀ name ∈ (ofDeclaration d text).names, Path.IsName name := by
  have hpackage := slash_not_mem_package d text
  exact ⟨relativePath_eq_ofNames hpackage d.slash_not_mem_simpleName,
    fun name h => isName_of_mem_names hpackage d.slash_not_mem_simpleName h⟩

/-! ### Plain names -/

/-- The segments of the name are not empty and without dots. -/
def IsPlain (name : String) : Prop := ∀ segment ∈ Text.segments name, segment ≠ "" ∧ '.' ∉ segment.toList

/-- The directories of a source file are the segments in front of the last one, for plain names. -/
lemma directories_ofDeclaration {d : Declaration} (h : IsPlain d.name) (text : String) :
    (ofDeclaration d text).directories = (Text.segments d.name).dropLast := by
  have hfront : ∀ segment ∈ (Text.segments d.name).dropLast, segment ≠ "" ∧ '.' ∉ segment.toList :=
    fun segment hsegment => h segment (List.dropLast_subset _ hsegment)
  rw [directories, ofDeclaration, d.packageName?_eq]
  by_cases hempty : (Text.segments d.name).dropLast = []
  · simp [hempty]
  · have hcut : (".".intercalate (Text.segments d.name).dropLast).toList.splitOn '.' =
        (Text.segments d.name).dropLast.map String.toList :=
      Text.splitOn_intercalate rfl (fun segment hsegment => (hfront segment hsegment).2) hempty
    rw [if_neg hempty, Option.getD_some, hcut, List.filter_eq_self.2, List.map_map]
    · exact List.map_id'' (fun _ => String.ofList_toList) _
    · intro segment hsegment
      obtain ⟨name, hname, rfl⟩ := List.mem_map.1 hsegment
      simpa using (hfront name hname).1

/-- The source file of a class with a plain name lies where the name says. -/
lemma relativePath_of_isPlain {d : Declaration} (h : IsPlain d.name) (text : String) :
    (ofDeclaration d text).relativePath = ⟨d.name ++ ".java"⟩ := by
  rw [(relativePath_ofDeclaration d text).1, names, directories_ofDeclaration h]
  refine congrArg Path.mk ?_
  show "/".intercalate ((Text.segments d.name).dropLast ++ [d.simpleName ++ ".java"]) = d.name ++ ".java"
  rw [d.simpleName_eq, Text.intercalate_concat_append, List.dropLast_append_getLast, Text.intercalate_segments]

end SourceFile

end ClassStub
