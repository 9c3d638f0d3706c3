import ClassStub.Proofs.Archive.Listing

/-!
# Zip files and their exploded directories

The same files can be stored in a zip file or lie below a directory, and both can be listed. Two tests make a
difference: a zip file is listed without what is below `META-INF`, a directory with it; and a file with the bare name
`.class` is a class in a zip file, but not in a directory. The listings are the same exactly when no class is told
apart by them.
-/

namespace ClassStub.Archive

/-- The items store just these files, and all of them can be opened. -/
structure Stores (items : List Zip.Item) (files : List (List String × Bytes)) : Prop where
  opened : ∀ item ∈ items, item.isReadable = true ∧ item.isLink = false
  stored : (items.map fun item => (item.name, item.content)).Perm
    (files.map fun file => (entryName file.1, .ok file.2))

/-- The names of a file lead somewhere below. -/
def IsNamed (file : List String × Bytes) : Prop := file.1 ≠ [] ∧ ∀ name ∈ file.1, Path.IsName name

/-- The entry of a file. -/
def ofFile (file : List String × Bytes) : Entry := ⟨entryName file.1, file.2⟩

/-! ### In a zip file -/

section

variable {items : List Zip.Item} {files : List (List String × Bytes)}

/-- An item that is no link is taken for a class by its last name, unless its names lead below the directory for other
things. -/
lemma isClassItem_iff {item : Zip.Item} {names : List String} (hnames : ∀ name ∈ names, Path.IsName name)
    (hne : names ≠ []) (hname : item.name = entryName names) (hlink : item.isLink = false) :
    isClassItem item = true ↔ (∃ front stem, names = front ++ [stem ++ ".class"]) ∧ ¬ IsMetaName names := by
  rw [← classSuffix_isSuffixOf_iff hnames hne, ← metaDirectory_isPrefixOf_iff hnames hne, ← hname, isClassItem,
    Zip.Item.isFile, hlink]
  -- The name of a directory ends in a slash, so it does not end as class files do.
  have hfile : classSuffix.isSuffixOf item.name.toList = true → item.isDirectory = false := by
    rw [List.isSuffixOf_iff_suffix]
    rintro ⟨internal, hinternal⟩
    rw [Zip.Item.isDirectory, ← hinternal, List.getLast?_append]
    rfl
  generalize metaDirectory.isPrefixOf item.name.toList = below
  cases hsuffix : classSuffix.isSuffixOf item.name.toList with
  | false => simp
  | true => simp [hfile hsuffix]

/-- The classes of a zip file: those that are not below `META-INF`. -/
lemma mem_jar_iff (hstores : Stores items files) (hnamed : ∀ file ∈ files, IsNamed file) {entry : Entry} :
    entry ∈ (items.filterMap entryOf?).filter (fun entry => isCandidate entry.name) ↔
      ∃ file ∈ files, IsClassName file.1 ∧ ¬ IsMetaName file.1 ∧ entry = ofFile file := by
  rw [List.mem_filter, List.mem_filterMap]
  constructor
  · rintro ⟨⟨item, hitem, hentry⟩, hcandidate⟩
    obtain ⟨hclass, hname, hcontent⟩ := entryOf?_eq_some_iff.1 hentry
    obtain ⟨file, hfile, heq⟩ := List.mem_map.1 (hstores.stored.mem_iff.1 (List.mem_map_of_mem hitem))
    obtain ⟨hfileName, hfileContent⟩ := Prod.mk.inj heq
    obtain ⟨hne, hnames⟩ := hnamed file hfile
    have hmeta := ((isClassItem_iff hnames hne hfileName.symm (hstores.opened item hitem).2).1 hclass).2
    rw [← hname, ← hfileName, isCandidate_entryName_iff hnames hne] at hcandidate
    refine ⟨file, hfile, hcandidate, hmeta, ?_⟩
    have hbytes := Except.ok.inj (hfileContent.trans hcontent)
    rw [ofFile, hfileName, hname, hbytes]
  · rintro ⟨file, hfile, hclass, hmeta, rfl⟩
    obtain ⟨hne, hnames⟩ := hnamed file hfile
    obtain ⟨item, hitem, heq⟩ := List.mem_map.1 (hstores.stored.mem_iff.2 (List.mem_map_of_mem hfile))
    obtain ⟨hname, hcontent⟩ := Prod.mk.inj heq
    obtain ⟨front, stem, hsplit, -⟩ := id hclass
    have hitemClass := (isClassItem_iff hnames hne hname (hstores.opened item hitem).2).2 ⟨⟨front, stem, hsplit⟩, hmeta⟩
    exact ⟨⟨item, hitem, entryOf?_eq_some_iff.2 ⟨hitemClass, hname, hcontent⟩⟩,
      (isCandidate_entryName_iff hnames hne).2 hclass⟩

/-- Items that store files can be opened and have content. -/
lemma isListable_of_stores (hstores : Stores items files) : ∀ item ∈ items, IsListable item := by
  intro item hitem
  refine ⟨(hstores.opened item hitem).1, fun _ => ?_⟩
  obtain ⟨file, -, heq⟩ := List.mem_map.1 (hstores.stored.mem_iff.1 (List.mem_map_of_mem hitem))
  exact ⟨file.2, (Prod.mk.inj heq).2.symm⟩

end

/-! ### In a directory -/

section

variable {directory : Archive} {tree : FileTree} {location : Location}

/-- The files below a directory can be read. -/
lemma directoryEntries_of_admissible (hwf : tree.WellFormed)
    (hfind : tree.find directory.path = .ok (location, .directory))
    (hadmissible : ∀ file ∈ tree.filesBelow location,
      FileTree.Admissible (directory.path.join ⟨entryName file.1⟩)) :
    directory.directoryEntries tree =
      .ok (((tree.filesBelow location).filter fun file => isClassFile file.1).map ofFile) := by
  rw [directoryEntries_eq hfind, classNames, List.filter_map, mapM_eq_ok_iff, List.forall₂_map_left_iff,
    List.forall₂_map_right_iff]
  refine List.forall₂_same.2 fun file hfile => ?_
  have hmem := (List.mem_filter.1 hfile).1
  have hnames := hwf.isName_of_mem_filesBelow hmem
  obtain ⟨hne, hget⟩ := hwf.mem_filesBelow_iff.1 hmem
  refine fileEntry_eq_ok_iff.2 ⟨rfl, ?_⟩
  rw [filePath_eq hnames hne]
  exact FileTree.read_eq_ok_iff.2
    ⟨_, FileTree.find_join hnames hne (hadmissible file hmem) hfind (hwf.walks hne hget true 0)⟩

/-- The classes of a directory: those that are not called like the suffix alone. -/
lemma mem_directory_iff {files : List (List String × Bytes)} (hnamed : ∀ file ∈ files, IsNamed file) {entry : Entry} :
    entry ∈ ((files.filter fun file => isClassFile file.1).map ofFile).filter (fun entry => isCandidate entry.name) ↔
      ∃ file ∈ files, IsClassName file.1 ∧ ¬ IsBareName file.1 ∧ entry = ofFile file := by
  have hiff : ∀ file ∈ files, (isClassFile file.1 = true ∧ isCandidate (entryName file.1) = true) ↔
      (IsClassName file.1 ∧ ¬ IsBareName file.1) := by
    intro file hfile
    obtain ⟨hne, hnames⟩ := hnamed file hfile
    rw [isClassFile_iff hnames hne, isCandidate_entryName_iff hnames hne]
    constructor
    · rintro ⟨⟨front, stem, hstem, hsplit⟩, hclass⟩
      refine ⟨hclass, ?_⟩
      rintro ⟨front', hbare⟩
      have hlast := List.singleton_inj.1 (List.append_inj' (hsplit.symm.trans hbare) rfl).2
      exact hstem (by simpa using hlast)
    · rintro ⟨hclass, hbare⟩
      obtain ⟨front, stem, hsplit, -⟩ := id hclass
      refine ⟨⟨front, stem, ?_, hsplit⟩, hclass⟩
      rintro rfl
      exact hbare ⟨front, by simpa using hsplit⟩
  rw [List.mem_filter, List.mem_map]
  constructor
  · rintro ⟨⟨file, hfile, rfl⟩, hcandidate⟩
    obtain ⟨hmem, hclassFile⟩ := List.mem_filter.1 hfile
    obtain ⟨hclass, hbare⟩ := (hiff file hmem).1 ⟨hclassFile, hcandidate⟩
    exact ⟨file, hmem, hclass, hbare, rfl⟩
  · rintro ⟨file, hfile, hclass, hbare, rfl⟩
    obtain ⟨hclassFile, hcandidate⟩ := (hiff file hfile).2 ⟨hclass, hbare⟩
    exact ⟨⟨file, List.mem_filter.2 ⟨hfile, hclassFile⟩, rfl⟩, hcandidate⟩

end

/-! ### Both ways -/

/-- Listings in order, without a name twice, are the same when they have the same entries. -/
lemma sortEntries_eq_iff {found found' : List Entry} (hnodup : (found.map Entry.name).Nodup)
    (hnodup' : (found'.map Entry.name).Nodup) :
    sortEntries found = sortEntries found' ↔ ∀ entry, entry ∈ found ↔ entry ∈ found' := by
  constructor
  · intro heq entry
    rw [← (perm_sortEntries found).mem_iff, heq, (perm_sortEntries found').mem_iff]
  · intro hmem
    refine sortEntries_eq_of_perm hnodup ?_
    exact (List.perm_ext_iff_of_nodup hnodup.of_map hnodup'.of_map).2 hmem

/-- Among files with names, what is asked of the names of a class is asked of the entry. -/
lemma exists_ofFile_iff {files : List (List String × Bytes)} {file : List String × Bytes} {Dropped : List String → Prop}
    (hnamed : ∀ file ∈ files, IsNamed file) (hfile : file ∈ files) (hclass : IsClassName file.1) :
    (∃ file' ∈ files, IsClassName file'.1 ∧ ¬ Dropped file'.1 ∧ ofFile file = ofFile file') ↔ ¬ Dropped file.1 := by
  constructor
  · rintro ⟨file', hfile', -, hkept, heq⟩
    obtain ⟨hne, hnames⟩ := hnamed file hfile
    obtain ⟨hne', hnames'⟩ := hnamed file' hfile'
    rwa [entryName_injective hnames hnames' hne hne' (congrArg Entry.name heq)]
  · exact fun hkept => ⟨file, hfile, hclass, hkept, rfl⟩

/-- A zip file and a directory with the same files, along paths that can be walked. Both can be listed. The listing of
the zip file has the classes that are not below `META-INF`, that of the directory those that have more to their name
than `.class`. So they are the same, in names, bytes and order, exactly when the classes below `META-INF` are those
with the bare name. -/
theorem jar_entries_eq_directory_entries_iff {jar directory : Archive} {tree tree' : FileTree}
    {items : List Zip.Item} {files : List (List String × Bytes)} {location : Location}
    (hkind : jar.kind tree = .zip) (hitems : jar.zipItems tree = .ok items) (hstores : Stores items files)
    (hwf : tree'.WellFormed) (hfind : tree'.find directory.path = .ok (location, .directory))
    (hfiles : (tree'.filesBelow location).Perm files)
    (hadmissible : ∀ file ∈ files, FileTree.Admissible (directory.path.join ⟨entryName file.1⟩)) :
    ∃ fromJar fromDirectory, jar.entries tree = .ok fromJar ∧ directory.entries tree' = .ok fromDirectory ∧
      (∀ entry, entry ∈ fromJar ↔
        ∃ file ∈ files, IsClassName file.1 ∧ ¬ IsMetaName file.1 ∧ entry = ⟨entryName file.1, file.2⟩) ∧
      (∀ entry, entry ∈ fromDirectory ↔
        ∃ file ∈ files, IsClassName file.1 ∧ ¬ IsBareName file.1 ∧ entry = ⟨entryName file.1, file.2⟩) ∧
      (fromJar = fromDirectory ↔
        ∀ file ∈ files, IsClassName file.1 → (IsMetaName file.1 ↔ IsBareName file.1)) := by
  have hnamed : ∀ file ∈ files, IsNamed file := by
    intro file hfile
    have hbelow := hfiles.mem_iff.2 hfile
    exact ⟨(hwf.mem_filesBelow_iff.1 hbelow).1, hwf.isName_of_mem_filesBelow hbelow⟩
  have hjar : jar.allEntries tree = .ok (items.filterMap entryOf?) := by
    rw [allEntries, hkind]
    exact bind_eq_ok_iff.2 ⟨items, hitems, itemEntries_eq_ok_iff.2 ⟨isListable_of_stores hstores, rfl⟩⟩
  have hkind' : directory.kind tree' = .directory :=
    kind_eq_directory_iff.2 (FileTree.isDirectory_iff.2 ⟨location, hfind⟩)
  have hdirectory : directory.allEntries tree' =
      .ok (((tree'.filesBelow location).filter fun file => isClassFile file.1).map ofFile) := by
    rw [allEntries, hkind']
    exact directoryEntries_of_admissible hwf hfind fun file hfile => hadmissible file (hfiles.mem_iff.1 hfile)
  have hmemJar : ∀ entry, entry ∈ (items.filterMap entryOf?).filter (fun entry => isCandidate entry.name) ↔
      ∃ file ∈ files, IsClassName file.1 ∧ ¬ IsMetaName file.1 ∧ entry = ofFile file :=
    fun entry => mem_jar_iff hstores hnamed
  have hmemDirectory : ∀ entry, entry ∈ (((tree'.filesBelow location).filter fun file => isClassFile file.1).map
      ofFile).filter (fun entry => isCandidate entry.name) ↔
      ∃ file ∈ files, IsClassName file.1 ∧ ¬ IsBareName file.1 ∧ entry = ofFile file := by
    intro entry
    rw [mem_directory_iff fun file hfile => hnamed file (hfiles.mem_iff.1 hfile)]
    simp only [hfiles.mem_iff]
  refine ⟨_, _, bind_eq_ok_iff.2 ⟨_, hjar, rfl⟩, bind_eq_ok_iff.2 ⟨_, hdirectory, rfl⟩, ?_, ?_, ?_⟩
  · exact fun entry => (perm_sortEntries _).mem_iff.trans (hmemJar entry)
  · exact fun entry => (perm_sortEntries _).mem_iff.trans (hmemDirectory entry)
  · have hnodup := (isFoundAgain_zip hkind hjar).nodup
    have hnodup' := (isFoundAgain_directory hwf hkind' hdirectory).nodup
    rw [sortEntries_eq_iff (hnodup.sublist (List.filter_sublist.map Entry.name))
      (hnodup'.sublist (List.filter_sublist.map Entry.name))]
    constructor
    · intro hsame file hfile hclass
      have hiff := hsame (ofFile file)
      rw [hmemJar, hmemDirectory, exists_ofFile_iff hnamed hfile hclass, exists_ofFile_iff hnamed hfile hclass] at hiff
      exact not_iff_not.1 hiff
    · intro hsame entry
      rw [hmemJar, hmemDirectory]
      refine exists_congr fun file => and_congr_right fun hfile => and_congr_right fun hclass => ?_
      rw [hsame file hfile hclass]

/-- Two classes, one of them below `META-INF`. -/
def twoFiles : List (List String × Bytes) :=
  [(["META-INF", "A.class"], [1]), (["p", "B.class"], [2])]

/-- The items of a zip file with the two classes. -/
def twoItems : List Zip.Item :=
  [⟨"META-INF/A.class", false, 0, false, 0xA505DF1B, some [1]⟩, ⟨"p/B.class", false, 0, false, 0x3C0C8EA1, some [2]⟩]

/-- A tree with a zip file and a directory that hold the two classes. -/
def twinTree : FileTree where
  base := []
  nodes := [(["d"], .directory), (["d", "META-INF"], .directory), (["d", "META-INF", "A.class"], .file [1]),
    (["d", "p"], .directory), (["d", "p", "B.class"], .file [2]), (["j.jar"], .file [
    80, 75, 3, 4, 20, 0, 0, 0, 0, 0, 0, 0, 33, 0, 27, 223, 5, 165, 1, 0, 0, 0, 1, 0, 0, 0, 16, 0, 0, 0, 77, 69, 84,
    65, 45, 73, 78, 70, 47, 65, 46, 99, 108, 97, 115, 115, 1, 80, 75, 3, 4, 20, 0, 0, 0, 0, 0, 0, 0, 33, 0, 161, 142,
    12, 60, 1, 0, 0, 0, 1, 0, 0, 0, 9, 0, 0, 0, 112, 47, 66, 46, 99, 108, 97, 115, 115, 2, 80, 75, 1, 2, 20, 3, 20, 0,
    0, 0, 0, 0, 0, 0, 33, 0, 27, 223, 5, 165, 1, 0, 0, 0, 1, 0, 0, 0, 16, 0, 0, 0, 0, 0, 0, 0, 0, 0, 0, 0, 128, 1, 0,
    0, 0, 0, 77, 69, 84, 65, 45, 73, 78, 70, 47, 65, 46, 99, 108, 97, 115, 115, 80, 75, 1, 2, 20, 3, 20, 0, 0, 0, 0,
    0, 0, 0, 33, 0, 161, 142, 12, 60, 1, 0, 0, 0, 1, 0, 0, 0, 9, 0, 0, 0, 0, 0, 0, 0, 0, 0, 0, 0, 128, 1, 47, 0, 0, 0,
    112, 47, 66, 46, 99, 108, 97, 115, 115, 80, 75, 5, 6, 0, 0, 0, 0, 2, 0, 2, 0, 117, 0, 0, 0, 87, 0, 0, 0, 0, 0])]

/-- The zip file has the two items. -/
lemma zipItems_twinTree : (Archive.mk ⟨"j.jar"⟩).zipItems twinTree = .ok twoItems := by decide +kernel

/-- The directory lists the class below `META-INF`, the zip file does not. -/
theorem twinTree_entries_differ :
    (Archive.mk ⟨"j.jar"⟩).entries twinTree = .ok [⟨"p/B.class", [2]⟩] ∧
      ∃ listed, (Archive.mk ⟨"d"⟩).entries twinTree = .ok listed ∧ ⟨"META-INF/A.class", [1]⟩ ∈ listed := by
  have hkind : (Archive.mk ⟨"j.jar"⟩).kind twinTree = .zip := by decide
  have hitems : (Archive.mk ⟨"j.jar"⟩).itemEntries twoItems = .ok [⟨"p/B.class", [2]⟩] := by decide
  have hjar : (Archive.mk ⟨"j.jar"⟩).allEntries twinTree = .ok [⟨"p/B.class", [2]⟩] := by
    rw [allEntries, hkind]
    exact bind_eq_ok_iff.2 ⟨_, zipItems_twinTree, hitems⟩
  have hdirectory : (Archive.mk ⟨"d"⟩).allEntries twinTree =
      .ok [⟨"META-INF/A.class", [1]⟩, ⟨"p/B.class", [2]⟩] := by decide
  have hsorted : sortEntries [⟨"p/B.class", [2]⟩] = [⟨"p/B.class", [2]⟩] := List.mergeSort_singleton _
  refine ⟨bind_eq_ok_iff.2 ⟨_, hjar, congrArg Except.ok hsorted⟩, _, bind_eq_ok_iff.2 ⟨_, hdirectory, rfl⟩,
    (perm_sortEntries _).mem_iff.2 ?_⟩
  decide

/-- A zip file and a directory with the same files can list different classes. -/
theorem twinTree_entries_ne :
    Stores twoItems twoFiles ∧ (twinTree.filesBelow ["d"]).Perm twoFiles ∧
      ∃ fromJar fromDirectory, (Archive.mk ⟨"j.jar"⟩).entries twinTree = .ok fromJar ∧
        (Archive.mk ⟨"d"⟩).entries twinTree = .ok fromDirectory ∧ fromJar ≠ fromDirectory := by
  have hkind : (Archive.mk ⟨"j.jar"⟩).kind twinTree = .zip := by decide
  have hstores : Stores twoItems twoFiles := by
    refine ⟨by decide, .of_eq ?_⟩
    decide
  have hwf : twinTree.WellFormed := by decide
  have hfind : twinTree.find ⟨"d"⟩ = .ok (["d"], .directory) := by decide
  have hfiles : (twinTree.filesBelow ["d"]).Perm twoFiles := .of_eq (by decide)
  have hadmissible : ∀ file ∈ twoFiles, FileTree.Admissible (Path.join ⟨"d"⟩ ⟨entryName file.1⟩) := by
    intro file hfile
    rcases List.mem_pair.1 hfile with rfl | rfl
    · exact ⟨by decide, by decide, by decide⟩
    · exact ⟨by decide, by decide, by decide⟩
  obtain ⟨fromJar, fromDirectory, hjar, hdirectory, -, -, hiff⟩ :=
    jar_entries_eq_directory_entries_iff hkind zipItems_twinTree hstores hwf hfind hfiles hadmissible
  refine ⟨hstores, hfiles, fromJar, fromDirectory, hjar, hdirectory, ?_⟩
  intro heq
  have hclass : IsClassName ["META-INF", "A.class"] := ⟨["META-INF"], "A", by decide, by decide, by decide⟩
  obtain ⟨front, hbare⟩ := (hiff.1 heq _ List.mem_cons_self hclass).1 ⟨["A.class"], by decide, rfl⟩
  have hlast := congrArg List.getLast? hbare
  rw [List.getLast?_concat] at hlast
  exact absurd hlast (by decide)

end ClassStub.Archive
