import ClassStub.Proofs.Archive.Kind
import ClassStub.Proofs.FileTree.WellFormed

/-!
# How far names reach

A directory is asked for an entry by a name, and the name is appended to the path of the directory and walked like any
other path. So the file that is read is the one that the name comes to when `.` and `..` are resolved, and that one can
be anywhere: a name that is itself an absolute path reads any file there is. Only a tree without files outside the
directory keeps every name inside.
-/

namespace ClassStub

namespace FileTree

/-- Where one segment of a path leads, by its text alone. -/
def enter (here : Location) (name : String) : Location :=
  if name = "" ∨ name = "." then here
  else if name = ".." then here.dropLast
  else here ++ [name]

/-- Where segments lead, one after the other. -/
def resolve (here : Location) (along : List String) : Location := along.foldl enter here

/-- Where the walk along a path starts that is appended to a directory. -/
def startFrom (dir : Location) (p : Path) : Location := if p.isAbsolute then [] else dir

/-- None of the places that segments lead through is a link. -/
def NoLinkAlong (tree : FileTree) (here : Location) (along : List String) : Prop :=
  ∀ front, front <+: along → ∀ target, tree.get? (resolve here front) ≠ some (.link target)

/-- The path is relative and leads out of a directory at no point on the way. -/
structure StaysInside (root : Location) (p : Path) : Prop where
  relative : p.isAbsolute = false
  inside : ∀ front, front <+: names p → root <+: resolve root front

section

variable {tree : FileTree} {follow : Bool} {links : Nat} {here location : Location} {name : String}
  {along : List String} {node : Node}

/-- An empty name and a single dot lead nowhere else. -/
lemma enter_idle (h : name = "" ∨ name = ".") : enter here name = here := if_pos h

/-- Two dots lead to the directory above. -/
lemma enter_above : enter here ".." = here.dropLast := by simp [enter]

/-- Any other name leads to what has this name in the directory. -/
lemma enter_step (h : IsStep name) : enter here name = here ++ [name] := by
  rw [enter, if_neg (not_or.2 ⟨h.ne_empty, h.ne_here⟩), if_neg h.ne_above]

/-- A way without links has none on the rest of it. -/
lemma NoLinkAlong.rest (h : tree.NoLinkAlong here (name :: along)) : tree.NoLinkAlong (enter here name) along :=
  fun front hfront => h (name :: front) (List.prefix_cons_iff.2 (.inr ⟨front, rfl, hfront⟩))

/-- What comes next on a way without links is no link. -/
lemma NoLinkAlong.get?_ne (h : tree.NoLinkAlong here (name :: along)) (target : Path) :
    tree.get? (enter here name) ≠ some (.link target) :=
  h [name] (List.prefix_cons_iff.2 (.inr ⟨[], rfl, List.nil_prefix⟩)) target

/-- Without links on the way, a walk ends where the segments lead by their texts. -/
lemma Walks.location_eq_resolve (h : Walks tree follow links here along (.node location node))
    (hfree : tree.NoLinkAlong here along) : location = resolve here along := by
  induction along generalizing here with
  | nil =>
    cases h with
    | done => rfl
  | cons name along ih =>
    rw [resolve, List.foldl_cons]
    cases h with
    | idle hidle hrest => exact ih (enter_idle hidle ▸ hrest) hfree.rest
    | above hrest => exact ih (enter_above ▸ hrest) hfree.rest
    | directory hstep _ hrest => exact ih (enter_step hstep ▸ hrest) hfree.rest
    | file hstep _ => rw [enter_step hstep, List.foldl_nil]
    | link hstep hget _ => exact absurd (enter_step hstep ▸ hget) (hfree.get?_ne _)
    | through hstep hget _ _ => exact absurd (enter_step hstep ▸ hget) (hfree.get?_ne _)

/-- A path that stays inside a directory without links meets none on its way. -/
lemma StaysInside.noLinkAlong {dir p : Path} {root : Location} (h : StaysInside root p)
    (hdir : tree.find dir = .ok (root, .directory)) (hfree : tree.LinkFreeBelow dir) :
    tree.NoLinkAlong (startFrom root p) (names p) := by
  intro front hfront target
  obtain ⟨below, hbelow⟩ := h.inside front hfront
  rw [startFrom, h.relative]
  exact hbelow ▸ hfree root hdir below target

/-- What is found by a path that is appended to a directory is walked to from the directory, or from the root. -/
lemma exists_walks_of_find_join {dir q : Path} {root : Location} (hdir : tree.find dir = .ok (root, .directory))
    (h : tree.find (dir.join q) = .ok (location, node)) :
    ∃ left, Walks tree true left (startFrom root q) (names q) (.node location node) := by
  cases hq : q.isAbsolute with
  | true =>
    have hjoin : dir.join q = q := if_pos hq
    have hwalks := (find_eq_ok_iff.1 (hjoin ▸ h)).2
    rw [start, hq] at hwalks
    rw [startFrom, hq]
    exact ⟨maxLinks, hwalks⟩
  | false =>
    have hne := (find_eq_ok_iff.1 hdir).1.ne_empty
    obtain ⟨middle, left, hmiddle, hwalks⟩ := exists_of_find_join hne hq h
    obtain ⟨rfl, -⟩ := Prod.mk.inj (Except.ok.inj (hdir.symm.trans hmiddle))
    rw [startFrom, hq]
    exact ⟨left, hwalks⟩

/-- The path of a location is absolute. -/
lemma isAbsolute_pathOf (location : Location) : (pathOf location).isAbsolute = true := by
  simp [Path.isAbsolute, pathOf]

/-- The path of a location has the names of the location, with the root in front. -/
lemma names_pathOf (hnames : ∀ name ∈ location, Path.IsName name) (hne : location ≠ []) :
    names (pathOf location) = "" :: location := by
  have hpath : pathOf location = ⟨"" ++ "/" ++ (Path.ofNames location).text⟩ :=
    congrArg Path.mk (by rw [String.empty_append]; rfl)
  have halong : (Path.ofNames location).segments.map String.ofList = location := names_ofNames hnames hne
  rw [names, hpath, Path.segments_append_slash, List.map_append, halong]
  rfl

/-- A file is found by the absolute path of its place. -/
lemma WellFormed.find_pathOf {content : Bytes} (h : tree.WellFormed)
    (hget : tree.get? location = some (.file content)) (hadmissible : Admissible (pathOf location)) :
    tree.find (pathOf location) = .ok (location, .file content) := by
  have hne : location ≠ [] := by
    rintro rfl
    rw [get?_nil] at hget
    cases hget
  have hnamed := h.named _ ((get?_eq_some_iff h.distinct hne).1 hget)
  refine find_eq_ok_iff.2 ⟨hadmissible, ?_⟩
  rw [names_pathOf hnamed hne, start, if_pos (isAbsolute_pathOf location)]
  have hbelow : tree.get? ([] ++ location) = some (.file content) := hget
  exact .idle (.inl rfl) (h.walks hne hbelow true maxLinks)

end

end FileTree

namespace Archive

open FileTree

variable {a : Archive} {tree : FileTree} {root location : Location} {name : String} {bytes : Bytes}

/-- The name reads the file at a place. -/
def ReadsAt (a : Archive) (tree : FileTree) (name : String) (location : Location) (bytes : Bytes) : Prop :=
  a.read tree name = .ok (some bytes) ∧ tree.find (a.path.join ⟨name⟩) = .ok (location, .file bytes)

/-- A directory reads what the name leads to behind its own path. -/
lemma read_eq_ok_some_iff (hkind : a.kind tree = .directory) :
    a.read tree name = .ok (some bytes) ↔ tree.read (a.path.join ⟨name⟩) = .ok bytes := by
  rw [read, hkind]
  dsimp only
  split
  · rw [← readFile_eq_ok_iff]
    cases readFile tree (a.path.join ⟨name⟩) with
    | error fault => exact ⟨nofun, nofun⟩
    | ok bytes' =>
      constructor
      · intro h
        cases h
        rfl
      · intro h
        cases h
        rfl
  · rename_i hfile
    exact ⟨nofun, fun h => absurd (isFile_of_read h) hfile⟩

/-- Reading a name from a directory reads the file that the joined path leads to. -/
lemma readsAt_iff (hkind : a.kind tree = .directory) :
    a.ReadsAt tree name location bytes ↔ tree.find (a.path.join ⟨name⟩) = .ok (location, .file bytes) := by
  rw [ReadsAt, read_eq_ok_some_iff hkind]
  exact and_iff_right_of_imp fun hfind => read_eq_ok_iff.2 ⟨location, hfind⟩

/-- The absolute path of a file is a name that reads it. -/
lemma readsAt_pathOf (hkind : a.kind tree = .directory) (hwf : tree.WellFormed)
    (hget : tree.get? location = some (.file bytes)) (hadmissible : Admissible (pathOf location)) :
    a.ReadsAt tree (pathOf location).text location bytes := by
  have hjoin : a.path.join (pathOf location) = pathOf location := if_pos (isAbsolute_pathOf location)
  exact (readsAt_iff hkind).2 (hjoin.symm ▸ hwf.find_pathOf hget hadmissible)

/--
A name reads the file that it comes to from the directory, or from the root if it is absolute, unless there are links
on the way. Names that lead out of the directory at no point read files inside it; all names do exactly when there are
no other files.
-/
theorem reads_inside_iff_no_files_outside (hwf : tree.WellFormed) (hdir : tree.find a.path = .ok (root, .directory))
    (hadmissible : ∀ location bytes, tree.get? location = some (.file bytes) → Admissible (pathOf location)) :
    (∀ name bytes, a.read tree name = .ok (some bytes) ↔ ∃ location, a.ReadsAt tree name location bytes) ∧
      (∀ name location bytes, a.ReadsAt tree name location bytes →
        tree.NoLinkAlong (startFrom root ⟨name⟩) (names ⟨name⟩) →
          location = resolve (startFrom root ⟨name⟩) (names ⟨name⟩)) ∧
      (tree.LinkFreeBelow a.path → ∀ name location bytes, StaysInside root ⟨name⟩ →
        a.ReadsAt tree name location bytes → root <+: location) ∧
      ((∀ name location bytes, a.ReadsAt tree name location bytes → root <+: location) ↔
        ∀ location bytes, tree.get? location = some (.file bytes) → root <+: location) := by
  have hkind : a.kind tree = .directory := kind_eq_directory_iff.2 (isDirectory_iff.2 ⟨root, hdir⟩)
  have hresolve : ∀ name location bytes, a.ReadsAt tree name location bytes →
      tree.NoLinkAlong (startFrom root ⟨name⟩) (names ⟨name⟩) →
        location = resolve (startFrom root ⟨name⟩) (names ⟨name⟩) := by
    intro name location bytes hreads hfree
    obtain ⟨left, hwalks⟩ := exists_walks_of_find_join hdir hreads.2
    exact hwalks.location_eq_resolve hfree
  refine ⟨?_, hresolve, ?_, ?_, ?_⟩
  · intro name bytes
    rw [read_eq_ok_some_iff hkind, read_eq_ok_iff]
    exact exists_congr fun location => (readsAt_iff hkind).symm
  · intro hfree name location bytes hstays hreads
    have hlocation := hresolve name location bytes hreads (hstays.noLinkAlong hdir hfree)
    rw [startFrom, hstays.relative] at hlocation
    exact hlocation ▸ hstays.inside _ List.prefix_rfl
  · intro hinside location bytes hget
    exact hinside _ location bytes (readsAt_pathOf hkind hwf hget (hadmissible location bytes hget))
  · intro hinside name location bytes hreads
    exact hinside location bytes (get?_of_find hreads.2)

/-- A directory with a class, and a file beside the directory. -/
def besideTree : FileTree where
  base := []
  nodes := [(["d"], .directory), (["d", "A.class"], .file [0]), (["x.txt"], .file [1])]

/-- Both `../x.txt` and `/x.txt` read the file beside the directory. -/
theorem besideTree_reads_outside :
    (Archive.mk ⟨"d"⟩).kind besideTree = .directory ∧
      (Archive.mk ⟨"d"⟩).ReadsAt besideTree "../x.txt" ["x.txt"] [1] ∧
      (Archive.mk ⟨"d"⟩).ReadsAt besideTree "/x.txt" ["x.txt"] [1] ∧
      ¬ ["d"] <+: ["x.txt"] := by
  refine ⟨by decide, ⟨by decide, by decide⟩, ⟨by decide, by decide⟩, ?_⟩
  decide

/-- In the tree with a file beside the directory, some name reads outside of the directory. -/
theorem besideTree_not_all_inside :
    besideTree.WellFormed ∧ besideTree.find ⟨"d"⟩ = .ok (["d"], .directory) ∧
      ¬ ∀ name location bytes, (Archive.mk ⟨"d"⟩).ReadsAt besideTree name location bytes → ["d"] <+: location := by
  have hwf : besideTree.WellFormed := by decide
  have hdir : besideTree.find ⟨"d"⟩ = .ok (["d"], .directory) := by decide
  have hfile : besideTree.get? ["x.txt"] = some (.file [1]) := by decide
  have hadmissible : ∀ location bytes, besideTree.get? location = some (.file bytes) →
      Admissible (pathOf location) := by
    intro location bytes hget
    have hne : location ≠ [] := by
      rintro rfl
      cases hget
    have hmem := (get?_eq_some_iff hwf.distinct hne).1 hget
    simp only [besideTree, List.mem_cons, Prod.mk.injEq, reduceCtorEq, and_false, false_or, List.not_mem_nil,
      or_false] at hmem
    rcases hmem with ⟨rfl, -⟩ | ⟨rfl, -⟩
    · exact ⟨by decide, by decide, by decide⟩
    · exact ⟨by decide, by decide, by decide⟩
  obtain ⟨-, -, -, hiff⟩ := reads_inside_iff_no_files_outside (a := ⟨⟨"d"⟩⟩) hwf hdir hadmissible
  exact ⟨hwf, hdir, fun hinside => absurd (hiff.1 hinside ["x.txt"] [1] hfile) (by decide)⟩

end Archive

end ClassStub
