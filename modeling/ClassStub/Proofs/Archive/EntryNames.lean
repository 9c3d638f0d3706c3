import ClassStub.Archive.Basic
import ClassStub.Proofs.Path

/-!
# What entry names say

An entry name is made of the names down to a file. Whether it is that of a class is asked in three ways: by the text of
the entry name, by the extension of the last name, and by the part behind the last slash. Here each of them is said in
terms of the names: `isCandidate_entryName_iff`, `isClassFile_iff`, `classSuffix_isSuffixOf_iff` and
`metaDirectory_isPrefixOf_iff`.
-/

namespace ClassStub

namespace Text

/-- What is written behind a name without a slash goes to its last segment. -/
lemma segments_append {name tail : String} (htail : '/' ∉ tail.toList) :
    segments (name ++ tail) = (segments name).dropLast ++ [(segments name).getLast (segments_ne_nil name) ++ tail] := by
  have hslash : ∀ segment ∈ (segments name).dropLast ++ [(segments name).getLast (segments_ne_nil name) ++ tail],
      '/' ∉ segment.toList := by
    intro segment hsegment
    rcases List.mem_append.1 hsegment with hfront | hlast
    · exact slash_not_mem_of_mem_segments (List.dropLast_subset _ hfront)
    · rw [List.mem_singleton.1 hlast, String.toList_append, List.mem_append, not_or]
      exact ⟨slash_not_mem_of_mem_segments (List.getLast_mem _), htail⟩
  have htext : "/".intercalate ((segments name).dropLast ++
      [(segments name).getLast (segments_ne_nil name) ++ tail]) = name ++ tail := by
    rw [intercalate_concat_append, List.dropLast_append_getLast, intercalate_segments]
  rw [← htext, segments_intercalate hslash (by simp)]

end Text

namespace Archive

/-- The last name is that of a class: it ends as class files do, and is no description of a module or package. -/
def IsClassName (names : List String) : Prop :=
  ∃ front stem, names = front ++ [stem ++ ".class"] ∧ stem ≠ "module-info" ∧ stem ≠ "package-info"

/-- The names lead below the directory for what is not meant as a class. -/
def IsMetaName (names : List String) : Prop :=
  ∃ below, below ≠ [] ∧ names = "META-INF" :: below

/-- The last name is the suffix of class files with nothing in front of it. -/
def IsBareName (names : List String) : Prop :=
  ∃ front, names = front ++ [".class"]

section

variable {names : List String}

/-- An entry name is cut into the names that it was made of. -/
lemma segments_entryName (hnames : ∀ name ∈ names, Path.IsName name) (hne : names ≠ []) :
    Text.segments (entryName names) = names :=
  Text.segments_intercalate (fun name hname => (hnames name hname).slashless) hne

/-- An entry name ends in the suffix of class files exactly if the last name does. -/
lemma entryName_eq_append_iff (hnames : ∀ name ∈ names, Path.IsName name) (hne : names ≠ []) {internal : String} :
    entryName names = internal ++ ".class" ↔
      ∃ front stem, names = front ++ [stem ++ ".class"] ∧ internal = entryName (front ++ [stem]) := by
  constructor
  · intro h
    have hsegments := segments_entryName hnames hne
    rw [h, Text.segments_append (by decide)] at hsegments
    refine ⟨_, _, hsegments.symm, ?_⟩
    rw [List.dropLast_append_getLast]
    exact (Text.intercalate_segments internal).symm
  · rintro ⟨front, stem, rfl, rfl⟩
    exact Text.intercalate_concat_append "/" front stem ".class"

/-- An entry name ends in the suffix of class files exactly if its last name does. -/
lemma classSuffix_isSuffixOf_iff (hnames : ∀ name ∈ names, Path.IsName name) (hne : names ≠ []) :
    classSuffix.isSuffixOf (entryName names).toList = true ↔ ∃ front stem, names = front ++ [stem ++ ".class"] := by
  rw [List.isSuffixOf_iff_suffix]
  constructor
  · rintro ⟨internal, h⟩
    have htext : entryName names = String.ofList internal ++ ".class" := by
      refine String.toList_injective ?_
      rw [← h, String.toList_append, String.toList_ofList]
      rfl
    obtain ⟨front, stem, hsplit, -⟩ := (entryName_eq_append_iff hnames hne).1 htext
    exact ⟨front, stem, hsplit⟩
  · rintro ⟨front, stem, rfl⟩
    refine ⟨(entryName (front ++ [stem])).toList, ?_⟩
    rw [(entryName_eq_append_iff hnames hne).2 ⟨front, stem, rfl, rfl⟩, String.toList_append]
    rfl

/-- An entry name starts with the directory for what is not meant as a class exactly if its names lead below it. -/
lemma metaDirectory_isPrefixOf_iff (hnames : ∀ name ∈ names, Path.IsName name) (hne : names ≠ []) :
    metaDirectory.isPrefixOf (entryName names).toList = true ↔ IsMetaName names := by
  rw [List.isPrefixOf_iff_prefix]
  constructor
  · rintro ⟨below, h⟩
    have hsegments := segments_entryName hnames hne
    have hcut : (metaDirectory ++ below).splitOn '/' = ["META-INF".toList] ++ below.splitOn '/' :=
      List.splitOn_append_cons_self "META-INF".toList below
    rw [Text.segments, ← h, hcut, List.map_append] at hsegments
    refine ⟨_, ?_, hsegments.symm⟩
    exact mt List.map_eq_nil_iff.1 (List.splitOn_ne_nil '/' below)
  · rintro ⟨below, hbelow, rfl⟩
    refine ⟨(entryName below).toList, ?_⟩
    have htext : entryName ("META-INF" :: below) = "META-INF" ++ "/" ++ entryName below :=
      String.intercalate_cons_of_ne_nil hbelow
    rw [htext, String.toList_append]
    rfl

/-- An entry counts as a class by the last segment of its internal name. -/
lemma isCandidate_iff {name : String} :
    isCandidate name = true ↔ ∃ internal, internalName? name = some internal ∧
      ∀ last, (Text.segments internal).getLast? = some last → last ≠ "module-info" ∧ last ≠ "package-info" := by
  rw [isCandidate]
  cases internalName? name with
  | none => exact ⟨nofun, fun ⟨_, h, _⟩ => nomatch h⟩
  | some internal =>
    have hlast := List.getLast?_eq_some_getLast (Text.segments_ne_nil internal)
    dsimp only
    rw [Text.head?_rsplit, Option.getD_some, Text.ofList_lastSegment]
    simp [hlast]

/-- No entry name starts with a slash, so only the suffix is dropped from it. -/
lemma internalName?_entryName (hnames : ∀ name ∈ names, Path.IsName name) {internal : String} :
    internalName? (entryName names) = some internal ↔ entryName names = internal ++ ".class" := by
  have hfront : Text.stripFront? ['/'] (entryName names).toList = none := by
    rw [Option.eq_none_iff_forall_ne_some]
    intro rest hrest
    rw [Text.stripFront?_eq_some_iff] at hrest
    have hrelative := Path.isAbsolute_ofNames hnames
    rw [Path.isAbsolute, Path.ofNames, ← entryName, hrest] at hrelative
    cases hrelative
  rw [internalName?, hfront, Option.getD_none, Option.map_eq_some_iff]
  constructor
  · rintro ⟨rest, hrest, rfl⟩
    refine String.toList_injective ?_
    rw [Text.stripEnd?_eq_some_iff.1 hrest, String.toList_append, String.toList_ofList]
    rfl
  · intro h
    refine ⟨internal.toList, Text.stripEnd?_eq_some_iff.2 ?_, String.ofList_toList⟩
    rw [h, String.toList_append]
    rfl

/-- The segments of an internal name, of which the last one need not be a name. -/
lemma segments_internal {front : List String} {stem : String}
    (hnames : ∀ name ∈ front ++ [stem ++ ".class"], Path.IsName name) :
    Text.segments (entryName (front ++ [stem])) = front ++ [stem] := by
  refine Text.segments_intercalate ?_ (by simp)
  intro name hname
  rcases List.mem_append.1 hname with hfront | hlast
  · exact (hnames name (List.mem_append_left _ hfront)).slashless
  · have hslash := (hnames (stem ++ ".class") (by simp)).slashless
    rw [String.toList_append, List.mem_append, not_or] at hslash
    exact List.mem_singleton.1 hlast ▸ hslash.1

/-- An entry name counts as that of a class exactly if its names do. -/
lemma isCandidate_entryName_iff (hnames : ∀ name ∈ names, Path.IsName name) (hne : names ≠ []) :
    isCandidate (entryName names) = true ↔ IsClassName names := by
  rw [isCandidate_iff]
  constructor
  · rintro ⟨internal, hinternal, hlast⟩
    obtain ⟨front, stem, rfl, rfl⟩ :=
      (entryName_eq_append_iff hnames hne).1 ((internalName?_entryName hnames).1 hinternal)
    rw [segments_internal hnames] at hlast
    exact ⟨front, stem, rfl, hlast stem List.getLast?_concat⟩
  · rintro ⟨front, stem, rfl, hstem⟩
    refine ⟨entryName (front ++ [stem]), ?_, ?_⟩
    · exact (internalName?_entryName hnames).2 ((entryName_eq_append_iff hnames hne).2 ⟨front, stem, rfl, rfl⟩)
    · intro last hlast
      rw [segments_internal hnames, List.getLast?_concat] at hlast
      exact Option.some.inj hlast ▸ hstem

/-- A name has the extension of class files when something stands in front of it. -/
lemma hasClassExtension_iff {name : String} (h : Path.IsName name) :
    hasClassExtension ⟨name⟩ = true ↔ ∃ stem, stem ≠ "" ∧ name = stem ++ ".class" := by
  rw [hasClassExtension, beq_iff_eq, Path.extension?, Path.fileName?_of_isName h]
  constructor
  · intro hextension
    obtain ⟨_, hname, hextension⟩ := Option.bind_eq_some_iff.1 hextension
    obtain rfl := Option.some.inj hname
    obtain ⟨⟨stem, extension⟩, hcut, hextension⟩ := Option.bind_eq_some_iff.1 hextension
    dsimp only at hextension
    split at hextension
    · cases hextension
    · rename_i hstem
      refine ⟨String.ofList stem, by simpa using hstem, String.toList_injective ?_⟩
      have hclass : extension = "class".toList := by
        rw [← Option.some.inj hextension, String.toList_ofList]
      rw [(Text.rsplit?_eq_some hcut).1, hclass, String.toList_append, String.toList_ofList (l := stem)]
      rfl
  · rintro ⟨stem, hstem, rfl⟩
    have hcut : Text.rsplit? '.' (stem ++ ".class").toList = some (stem.toList, "class".toList) := by
      rw [String.toList_append]
      exact Text.rsplit?_append (by decide)
    refine Option.bind_eq_some_iff.2 ⟨_, rfl, Option.bind_eq_some_iff.2 ⟨_, hcut, ?_⟩⟩
    dsimp only
    rw [if_neg (by simpa using hstem), String.ofList_toList]

/-- A file counts as a class file exactly if its last name has something in front of the extension. -/
lemma isClassFile_iff (hnames : ∀ name ∈ names, Path.IsName name) (hne : names ≠ []) :
    isClassFile names = true ↔ ∃ front stem, stem ≠ "" ∧ names = front ++ [stem ++ ".class"] := by
  obtain ⟨front, last, rfl⟩ := (List.eq_nil_or_concat' names).resolve_left hne
  rw [isClassFile, List.getLast?_concat, Option.getD_some, hasClassExtension_iff (hnames last (by simp))]
  constructor
  · rintro ⟨stem, hstem, rfl⟩
    exact ⟨front, stem, hstem, rfl⟩
  · rintro ⟨front', stem, hstem, heq⟩
    exact ⟨stem, hstem, (List.append_inj' heq rfl).2 |> List.singleton_inj.1⟩

end

end Archive

end ClassStub
