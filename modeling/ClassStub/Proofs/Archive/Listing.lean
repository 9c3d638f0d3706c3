import ClassStub.Proofs.Archive.EntryNames
import ClassStub.Proofs.Archive.Items
import ClassStub.Proofs.Archive.Kind
import ClassStub.Proofs.FileTree.WellFormed
import ClassStub.Proofs.Text.ByteOrder

/-!
# Listing classes and reading them

What an input lists, it gives back by name. Each kind of input is listed in a way of its own, but for all of them no
name is found twice, and the entry of a name is what reading the name gives (`isFoundAgain_of_allEntries`). Since names
are different, their order puts the entries in one order only, whatever the order in which they were found.
-/

namespace ClassStub.Archive

/-! ### The order of entries -/

section

variable {found found' : List Entry}

/-- Putting entries in order neither adds nor loses any. -/
lemma perm_sortEntries (found : List Entry) : (sortEntries found).Perm found :=
  List.mergeSort_perm found _

/-- Entries that were put in order stand in the order of their names. -/
lemma pairwise_sortEntries (found : List Entry) :
    (sortEntries found).Pairwise fun entry entry' => entry.name ≤ entry'.name :=
  Text.pairwise_mergeSort Entry.name found

/-- Entries with different names that were put in order go up in the order of the bytes of their names. -/
lemma pairwise_lt_sortEntries (h : (found.map Entry.name).Nodup) :
    (sortEntries found).Pairwise fun entry entry' =>
      Text.Utf8.encode entry.name < Text.Utf8.encode entry'.name := by
  have hnodup : ((sortEntries found).map Entry.name).Nodup :=
    ((perm_sortEntries found).map Entry.name).nodup_iff.2 h
  rw [List.Nodup, List.pairwise_map] at hnodup
  refine (pairwise_sortEntries found).imp₂ ?_ hnodup
  intro entry entry' hle hne
  exact Text.Utf8.encode_lt_encode (Text.lt_of_le_of_ne hle hne)

/-- Entries with different names have one order only. -/
lemma sortEntries_eq_of_perm (h : (found.map Entry.name).Nodup) (hperm : found.Perm found') :
    sortEntries found = sortEntries found' := by
  have hperm' := (perm_sortEntries found).trans (hperm.trans (perm_sortEntries found').symm)
  refine hperm'.eq_of_pairwise ?_ (pairwise_sortEntries found) (pairwise_sortEntries found')
  -- Entries that stand in both orders to each other have the same name, so they are the same.
  intro entry entry' hentry hentry' hle hle'
  have hmem := (perm_sortEntries found).mem_iff.1 hentry
  have hmem' := hperm.mem_iff.2 ((perm_sortEntries found').mem_iff.1 hentry')
  exact List.inj_on_of_nodup_map h hmem hmem' (String.le_antisymm hle hle')

end

/-! ### What is found -/

section

variable {a : Archive} {tree : FileTree} {found : List Entry}

/-- No name was found twice, and reading a name gives what was found with it. -/
structure IsFoundAgain (a : Archive) (tree : FileTree) (found : List Entry) : Prop where
  nodup : (found.map Entry.name).Nodup
  read : ∀ entry ∈ found, a.read tree entry.name = .ok (some entry.bytes)

/-- The one entry of a class file has the file name. -/
lemma isFoundAgain_classFile (hkind : a.kind tree = .classFile) (h : a.allEntries tree = .ok found) :
    IsFoundAgain a tree found := by
  rw [allEntries, hkind] at h
  obtain ⟨bytes, hread, h⟩ := bind_eq_ok_iff.1 h
  obtain rfl := Except.ok.inj h
  refine ⟨List.nodup_singleton _, ?_⟩
  intro entry hentry
  obtain rfl := List.mem_singleton.1 hentry
  have hextension : hasClassExtension a.path = true := by
    rw [kind] at hkind
    split at hkind
    · cases hkind
    · split at hkind
      · assumption
      · cases hkind
  have hname : ∃ name, a.path.fileName? = some name := by
    rw [hasClassExtension, beq_iff_eq] at hextension
    obtain ⟨name, hname, -⟩ := Option.bind_eq_some_iff.1 hextension
    exact ⟨name, hname⟩
  obtain ⟨name, hname⟩ := hname
  have hnames : namesFile a.path name = true := by
    rw [namesFile, hname, Path.fileName?_of_isName (Path.isName_of_fileName? hname)]
    simp
  rw [hname, Option.getD_some, Archive.read, hkind]
  dsimp only
  rw [if_pos hnames, hread]
  rfl

/-- The entry of a file has the names of its path and the content of the file. -/
lemma fileEntry_eq_ok_iff {names : List String} {entry : Entry} :
    a.fileEntry tree names = .ok entry ↔
      entry.name = entryName names ∧ tree.read (a.filePath names) = .ok entry.bytes := by
  rw [fileEntry, bind_eq_ok_iff]
  constructor
  · rintro ⟨bytes, hread, h⟩
    obtain rfl := Except.ok.inj h
    exact ⟨rfl, readFile_eq_ok_iff.1 hread⟩
  · rintro ⟨hname, hread⟩
    exact ⟨entry.bytes, readFile_eq_ok_iff.2 hread, by rw [← hname]; rfl⟩

/-- Going down name after name leads to the path with the entry name behind it. -/
lemma filePath_eq {names : List String} (hnames : ∀ name ∈ names, Path.IsName name) (hne : names ≠ []) :
    a.filePath names = a.path.join ⟨entryName names⟩ :=
  Path.foldl_join_eq hnames hne a.path

/-- Different paths of names have different entry names. -/
lemma entryName_injective {names names' : List String} (hnames : ∀ name ∈ names, Path.IsName name)
    (hnames' : ∀ name ∈ names', Path.IsName name) (hne : names ≠ []) (hne' : names' ≠ [])
    (h : entryName names = entryName names') : names = names' := by
  rw [← segments_entryName hnames hne, h, segments_entryName hnames' hne']

/-- The class files of a directory, by their names. -/
def classNames (tree : FileTree) (location : Location) : List (List String) :=
  ((tree.filesBelow location).map Prod.fst).filter isClassFile

/-- The entries of a directory are those of its class files. -/
lemma directoryEntries_eq {location : Location} (hfind : tree.find a.path = .ok (location, .directory)) :
    a.directoryEntries tree = (classNames tree location).mapM (a.fileEntry tree) := by
  rw [directoryEntries, hfind]
  rfl

/-- Files below a directory have different entry names. -/
lemma isFoundAgain_directory (hwf : tree.WellFormed) (hkind : a.kind tree = .directory)
    (h : a.allEntries tree = .ok found) : IsFoundAgain a tree found := by
  obtain ⟨location, hfind⟩ := FileTree.isDirectory_iff.1 (kind_eq_directory_iff.1 hkind)
  rw [allEntries, hkind] at h
  dsimp only at h
  rw [directoryEntries_eq hfind] at h
  have hnamed : ∀ names ∈ classNames tree location, names ≠ [] ∧ ∀ name ∈ names, Path.IsName name := by
    intro names hnames
    obtain ⟨file, hfile, rfl⟩ := List.mem_map.1 (List.mem_filter.1 hnames).1
    exact ⟨(hwf.mem_filesBelow_iff.1 hfile).1, hwf.isName_of_mem_filesBelow hfile⟩
  refine ⟨?_, ?_⟩
  · rw [map_eq_of_mapM h fun names entry hentry => (fileEntry_eq_ok_iff.1 hentry).1]
    refine ((hwf.nodup_filesBelow location).filter isClassFile).map_on ?_
    -- The names are read off the entry name again.
    intro names hnames names' hnames' heq
    obtain ⟨hne, hisName⟩ := hnamed names hnames
    obtain ⟨hne', hisName'⟩ := hnamed names' hnames'
    exact entryName_injective hisName hisName' hne hne' heq
  · intro entry hentry
    obtain ⟨names, hnames, hfile⟩ := exists_of_mem_of_mapM h hentry
    obtain ⟨hname, hread⟩ := fileEntry_eq_ok_iff.1 hfile
    obtain ⟨hne, hisName⟩ := hnamed names hnames
    rw [filePath_eq hisName hne, ← hname] at hread
    rw [Archive.read, hkind]
    dsimp only
    rw [if_pos (FileTree.isFile_of_read hread), readFile_eq_ok_iff.2 hread]
    rfl

/-- Items of a zip file have different names. -/
lemma isFoundAgain_zip (hkind : a.kind tree = .zip) (h : a.allEntries tree = .ok found) :
    IsFoundAgain a tree found := by
  rw [allEntries, hkind] at h
  obtain ⟨items, hitems, h⟩ := bind_eq_ok_iff.1 h
  obtain ⟨hlistable, rfl⟩ := itemEntries_eq_ok_iff.1 h
  have hnodup := nodup_of_zipItems hitems
  refine ⟨?_, ?_⟩
  · rw [List.Nodup, List.pairwise_map] at hnodup ⊢
    rw [List.pairwise_filterMap]
    refine hnodup.imp ?_
    intro item item' hne entry hentry entry' hentry'
    rw [← (entryOf?_eq_some_iff.1 hentry).2.1, ← (entryOf?_eq_some_iff.1 hentry').2.1]
    exact hne
  · intro entry hentry
    obtain ⟨item, hitem, hof⟩ := List.mem_filterMap.1 hentry
    obtain ⟨-, hname, hcontent⟩ := entryOf?_eq_some_iff.1 hof
    rw [Archive.read, hkind, ← hname]
    exact bind_eq_ok_iff.2 ⟨items, hitems, readItem_of_mem hnodup hitem (hlistable item hitem).1 hcontent⟩

/-- Whatever the kind of an input, what is found in it is found again by name. -/
lemma isFoundAgain_of_allEntries (hwf : tree.WellFormed) (h : a.allEntries tree = .ok found) :
    IsFoundAgain a tree found := by
  cases hkind : a.kind tree with
  | classFile => exact isFoundAgain_classFile hkind h
  | directory => exact isFoundAgain_directory hwf hkind h
  | zip => exact isFoundAgain_zip hkind h

end

/-! ### The order in which entries are found -/

section

variable {a : Archive} {tree tree' : FileTree} {found : List Entry}

/-- The order of the files in a tree shows in the order of what is found only. -/
lemma exists_perm_of_allEntries (hwf : tree.WellFormed) (hbase : tree'.base = tree.base)
    (hperm : tree.nodes.Perm tree'.nodes) (h : a.allEntries tree = .ok found) :
    ∃ found', a.allEntries tree' = .ok found' ∧ found.Perm found' := by
  have hfind : ∀ p, tree'.find p = tree.find p := FileTree.find_congr hbase (hwf.get?_eq_of_perm hperm)
  have hread : ∀ p, tree'.read p = tree.read p := fun p => by rw [FileTree.read, FileTree.read, hfind]
  have hkind : a.kind tree' = a.kind tree := by
    rw [kind, kind, FileTree.isDirectory, FileTree.isDirectory, hfind]
  rw [allEntries] at h ⊢
  rw [hkind]
  cases hcase : a.kind tree with
  | classFile =>
    rw [hcase] at h
    rw [readFile, hread]
    exact ⟨found, h, .refl found⟩
  | zip =>
    rw [hcase] at h
    rw [zipItems, readFile, hread]
    exact ⟨found, h, .refl found⟩
  | directory =>
    rw [hcase] at h
    dsimp only at h ⊢
    obtain ⟨location, hlocation⟩ := FileTree.isDirectory_iff.1 (kind_eq_directory_iff.1 hcase)
    rw [directoryEntries_eq hlocation] at h
    rw [directoryEntries_eq ((hfind a.path).trans hlocation)]
    have hnames : (classNames tree' location).Perm (classNames tree location) :=
      ((hperm.symm.filterMap _).map Prod.fst).filter isClassFile
    have hentry : a.fileEntry tree' = a.fileEntry tree := by
      funext names
      rw [fileEntry, fileEntry, readFile, readFile, hread]
    rw [hentry]
    obtain ⟨found', hfound', hperm'⟩ := exists_perm_of_mapM h hnames
    exact ⟨found', hfound', hperm'.symm⟩

/-- Entries that are found in another order are listed in the same one. -/
lemma entries_eq_of_perm {found' : List Entry} {a' : Archive} (hnodup : (found.map Entry.name).Nodup)
    (h : a'.allEntries tree' = .ok found') (hperm : found.Perm found') :
    a'.entries tree' = .ok (sortEntries (found.filter fun entry => isCandidate entry.name)) := by
  have hnodup' : ((found.filter fun entry => isCandidate entry.name).map Entry.name).Nodup :=
    hnodup.sublist (List.filter_sublist.map Entry.name)
  rw [sortEntries_eq_of_perm hnodup' (hperm.filter _)]
  exact bind_eq_ok_iff.2 ⟨found', h, rfl⟩

end

/-! ### Listing and reading -/

/-- What an input lists, it gives back by name. Of any input that can be listed, the names of the entries go up in the
order of their bytes, each of them is the name of a class and not that of a description of a module or package, and
reading it gives the bytes of the entry. The entries are the same whatever the order in which the file system lists the
files, and, for a zip file, whatever the order of the items in it. -/
theorem entries_agree_with_read {a : Archive} {tree : FileTree} {listed : List Entry} (hwf : tree.WellFormed)
    (h : a.entries tree = .ok listed) :
    listed.Pairwise (fun entry entry' => Text.Utf8.encode entry.name < Text.Utf8.encode entry'.name) ∧
    (∀ entry ∈ listed, ∃ internal, internalName? entry.name = some internal ∧
      ∀ last, (Text.segments internal).getLast? = some last → last ≠ "module-info" ∧ last ≠ "package-info") ∧
    (∀ entry ∈ listed, a.read tree entry.name = .ok (some entry.bytes)) ∧
    (∀ tree', tree'.base = tree.base → tree.nodes.Perm tree'.nodes → a.entries tree' = .ok listed) ∧
    (∀ items, a.kind tree = .zip → a.zipItems tree = .ok items →
      ∀ (a' : Archive) tree' items', a'.kind tree' = .zip → a'.zipItems tree' = .ok items' → items.Perm items' →
        a'.entries tree' = .ok listed) := by
  obtain ⟨found, hfound, h⟩ := bind_eq_ok_iff.1 h
  obtain rfl := Except.ok.inj h
  have hagain := isFoundAgain_of_allEntries hwf hfound
  have hmem : ∀ entry ∈ sortEntries (found.filter fun entry => isCandidate entry.name),
      entry ∈ found ∧ isCandidate entry.name = true :=
    fun entry hentry => List.mem_filter.1 ((perm_sortEntries _).mem_iff.1 hentry)
  refine ⟨?_, ?_, ?_, ?_, ?_⟩
  · exact pairwise_lt_sortEntries (hagain.nodup.sublist (List.filter_sublist.map Entry.name))
  · exact fun entry hentry => isCandidate_iff.1 (hmem entry hentry).2
  · exact fun entry hentry => hagain.read entry (hmem entry hentry).1
  · intro tree' hbase hperm
    obtain ⟨found', hfound', hperm'⟩ := exists_perm_of_allEntries hwf hbase hperm hfound
    exact entries_eq_of_perm hagain.nodup hfound' hperm'
  · intro items hkind hitems a' tree' items' hkind' hitems' hperm
    rw [allEntries, hkind] at hfound
    obtain ⟨_, hitems'', hfound⟩ := bind_eq_ok_iff.1 hfound
    cases hitems.symm.trans hitems''
    obtain ⟨hlistable, rfl⟩ := itemEntries_eq_ok_iff.1 hfound
    have hfound' : a'.allEntries tree' = .ok (items'.filterMap entryOf?) := by
      rw [allEntries, hkind']
      refine bind_eq_ok_iff.2 ⟨items', hitems', itemEntries_eq_ok_iff.2 ⟨?_, rfl⟩⟩
      exact fun item hitem => hlistable item (hperm.mem_iff.2 hitem)
    exact entries_eq_of_perm hagain.nodup hfound' (hperm.filterMap entryOf?)

/-- A tree with a directory that holds two classes, one of them in a package, and the description of a module. -/
def classesTree : FileTree where
  base := []
  nodes := [(["d"], .directory), (["d", "p"], .directory), (["d", "p", "B.class"], .file [2]),
    (["d", "module-info.class"], .file [0]), (["d", "A.class"], .file [1])]

/-- The tree with two classes lists both, and the one in the package is read back by its name. -/
theorem classesTree_entries_agree_with_read :
    ∃ listed, (Archive.mk ⟨"d"⟩).entries classesTree = .ok listed ∧
      listed.Perm [⟨"p/B.class", [2]⟩, ⟨"A.class", [1]⟩] ∧
      listed.Pairwise (fun entry entry' => Text.Utf8.encode entry.name < Text.Utf8.encode entry'.name) ∧
      (Archive.mk ⟨"d"⟩).read classesTree "p/B.class" = .ok (some [2]) := by
  have hwf : classesTree.WellFormed := by decide
  have hfound : (Archive.mk ⟨"d"⟩).allEntries classesTree =
      .ok [⟨"p/B.class", [2]⟩, ⟨"module-info.class", [0]⟩, ⟨"A.class", [1]⟩] := by decide
  have hlisted : (Archive.mk ⟨"d"⟩).entries classesTree =
      .ok (sortEntries [⟨"p/B.class", [2]⟩, ⟨"A.class", [1]⟩]) :=
    bind_eq_ok_iff.2 ⟨_, hfound, rfl⟩
  obtain ⟨hincreasing, -, hread, -⟩ := entries_agree_with_read hwf hlisted
  have hperm := perm_sortEntries [⟨"p/B.class", [2]⟩, ⟨"A.class", [1]⟩]
  exact ⟨_, hlisted, hperm, hincreasing, hread ⟨"p/B.class", [2]⟩ (hperm.mem_iff.2 List.mem_cons_self)⟩

end ClassStub.Archive
