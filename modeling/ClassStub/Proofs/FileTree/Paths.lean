import ClassStub.Proofs.FileTree.Walks

/-!
# Nodes by their paths

What a path leads to, in terms of walks: `find_eq_ok_iff`. A path that is put together from a directory and names is
found by finding the directory and walking on along the names, and the other way round.
-/

namespace ClassStub.FileTree

/-- A path that can be walked at all. -/
structure Admissible (p : Path) : Prop where
  nulless : '\x00' ∉ p.text.toList
  ne_empty : p.text ≠ ""
  short : p.text.utf8ByteSize < maxPath

/-- Where the walk along a path starts. -/
def start (tree : FileTree) (p : Path) : Location := if p.isAbsolute then [] else tree.base

section

variable {tree : FileTree} {follow : Bool} {p : Path} {place : Place} {location : Location} {node : Node}

/-- A path is located by walking along its names, if it is one that can be looked up. -/
lemma locate_eq_ok_iff :
    tree.locate follow p = .ok place ↔
      Admissible p ∧ Walks tree follow maxLinks (tree.start p) (names p) place := by
  rw [← walk_eq_ok_iff, locate]
  split
  · rename_i hnul
    exact ⟨nofun, fun h => absurd (by simpa using hnul) h.1.nulless⟩
  · rename_i hnul
    split
    · rename_i hempty
      exact ⟨nofun, fun h => absurd hempty h.1.ne_empty⟩
    · rename_i hempty
      split
      · rename_i hlong
        exact ⟨nofun, fun h => absurd h.1.short (Nat.not_lt.2 hlong)⟩
      · rename_i hlong
        have hp : Admissible p := ⟨by simpa using hnul, hempty, Nat.not_le.1 hlong⟩
        exact (and_iff_right hp).symm

/-- A node is found where the path is located with all links followed. -/
lemma find_eq_ok_iff_locate : tree.find p = .ok (location, node) ↔ tree.locate true p = .ok (.node location node) := by
  rw [find]
  cases tree.locate true p with
  | error e => exact ⟨nofun, nofun⟩
  | ok place =>
    cases place with
    | node location' node' =>
      constructor
      · intro h
        cases h
        rfl
      · intro h
        cases h
        rfl
    | vacant location' slash => exact ⟨nofun, nofun⟩

/-- A node is found by walking along the names of the path with all links followed. -/
lemma find_eq_ok_iff :
    tree.find p = .ok (location, node) ↔
      Admissible p ∧ Walks tree true maxLinks (tree.start p) (names p) (.node location node) := by
  rw [find_eq_ok_iff_locate, locate_eq_ok_iff]

/-- A file that is found is in the tree. -/
lemma get?_of_find {content : Bytes} (h : tree.find p = .ok (location, .file content)) :
    tree.get? location = some (.file content) :=
  (find_eq_ok_iff.1 h).2.get?_file rfl

/-- The content that is read is that of the file that is found. -/
lemma read_eq_ok_iff {content : Bytes} :
    tree.read p = .ok content ↔ ∃ location, tree.find p = .ok (location, .file content) := by
  rw [read]
  cases tree.find p with
  | error e => exact ⟨nofun, nofun⟩
  | ok found =>
    obtain ⟨place, node⟩ := found
    cases node with
    | file content' =>
      constructor
      · intro h
        cases h
        exact ⟨place, rfl⟩
      · rintro ⟨location, h⟩
        cases h
        rfl
    | directory => exact ⟨nofun, nofun⟩
    | link target => exact ⟨nofun, nofun⟩

/-- A path names a directory exactly if one is found. -/
lemma isDirectory_iff : tree.isDirectory p = true ↔ ∃ location, tree.find p = .ok (location, .directory) := by
  rw [isDirectory]
  split
  · rename_i location hfind
    exact ⟨fun _ => ⟨location, hfind⟩, fun _ => rfl⟩
  · rename_i hfind
    refine ⟨nofun, ?_⟩
    rintro ⟨location, h⟩
    exact absurd h (hfind location)

/-- What can be read is a file. -/
lemma isFile_of_read {content : Bytes} (h : tree.read p = .ok content) : tree.isFile p = true := by
  obtain ⟨location, hfind⟩ := read_eq_ok_iff.1 h
  rw [isFile, hfind]

end

section

variable {before after : FileTree} {p : Path} {location : Location}

/-- Walks begin at the same place in a tree that keeps what was there. -/
lemma Keeps.start (h : before.Keeps after) : after.start p = before.start p := by
  rw [FileTree.start, FileTree.start, h.base]

/-- A path goes on leading to the node that it leads to. -/
lemma Keeps.find {node : Node} (h : before.Keeps after) (hfind : before.find p = .ok (location, node)) :
    ∃ node', after.find p = .ok (location, node') ∧ node.Alike node' := by
  obtain ⟨hp, hwalks⟩ := find_eq_ok_iff.1 hfind
  obtain ⟨node', hwalks', halike⟩ := hwalks.keeps h rfl
  rw [← h.start] at hwalks'
  exact ⟨node', find_eq_ok_iff.2 ⟨hp, hwalks'⟩, halike⟩

end

/-! ### Paths behind a directory -/

section

variable {tree : FileTree} {dir q : Path} {location : Location} {node : Node}

/-- A path has at least one name, if only an empty one. -/
lemma names_ne_nil (p : Path) : names p ≠ [] := by
  simp [names, Path.segments, List.splitOn_ne_nil]

/-- The names of a directory and behind it those of a relative path; an empty one between them gives way. -/
lemma names_join (hdir : dir.text ≠ "") (hq : q.isAbsolute = false) :
    names (dir.join q) = names dir ++ names q ∨
      ∃ front, names dir = front ++ [""] ∧ names (dir.join q) = front ++ names q := by
  rcases Path.segments_join hdir hq with hjoin | ⟨front, hfront, hjoin⟩
  · refine .inl ?_
    rw [names, hjoin, List.map_append, names, names]
  · refine .inr ⟨front.map String.ofList, ?_, ?_⟩
    · rw [names, hfront, List.map_append]
      rfl
    · rw [names, hjoin, List.map_append, names]

/-- A relative path behind a directory is walked from where the directory is walked from. -/
lemma start_join (hq : q.isAbsolute = false) : tree.start (dir.join q) = tree.start dir := by
  rw [start, start, Path.isAbsolute_join hq]

/-- Around a path that can be walked, the directory can be. -/
lemma Admissible.of_join (hdir : dir.text ≠ "") (hq : q.isAbsolute = false) (h : Admissible (dir.join q)) :
    Admissible dir := by
  have htext := Path.text_join (p := dir) hq
  refine ⟨?_, hdir, ?_⟩
  · intro hnul
    refine h.nulless ?_
    rw [htext, String.toList_append, String.toList_append]
    simp [hnul]
  · have hshort := h.short
    rw [htext, String.utf8ByteSize_append, String.utf8ByteSize_append] at hshort
    omega

/-- What is found behind a directory is found by going on from it. -/
lemma exists_of_find_join (hdir : dir.text ≠ "") (hq : q.isAbsolute = false)
    (h : tree.find (dir.join q) = .ok (location, node)) :
    ∃ middle left, tree.find dir = .ok (middle, .directory) ∧
      Walks tree true left middle (names q) (.node location node) := by
  obtain ⟨hadmissible, hwalks⟩ := find_eq_ok_iff.1 h
  have hdir' := hadmissible.of_join hdir hq
  rw [start_join hq] at hwalks
  have hnode : ∃ location' node', Place.node location node = .node location' node' := ⟨_, _, rfl⟩
  rcases names_join hdir hq with hjoin | ⟨front, hfront, hjoin⟩
  · obtain ⟨left, middle, hwalksDir, hrest⟩ := hwalks.of_append hjoin (names_ne_nil q) (.inl hnode)
    exact ⟨middle, left, find_eq_ok_iff.2 ⟨hdir', hwalksDir⟩, hrest⟩
  · obtain ⟨left, middle, hwalksDir, hrest⟩ := hwalks.of_append hjoin (names_ne_nil q) (.inl hnode)
    have hslash := hwalksDir.append rfl (.idle (.inl rfl) .done)
    rw [← hfront] at hslash
    exact ⟨middle, left, find_eq_ok_iff.2 ⟨hdir', hslash⟩, hrest⟩

end

/-! ### Names below a directory -/

section

variable {tree : FileTree} {dir : Path} {along : List String} {location : Location} {node : Node}

/-- The names of a path along names are these. -/
lemma names_ofNames (halong : ∀ name ∈ along, Path.IsName name) (hne : along ≠ []) :
    names (Path.ofNames along) = along :=
  Text.segments_intercalate (fun name hname => (halong name hname).slashless) hne

/-- Going on from a directory finds what is behind it. -/
lemma find_join {middle : Location} (halong : ∀ name ∈ along, Path.IsName name) (hne : along ≠ [])
    (hadmissible : Admissible (dir.join (Path.ofNames along))) (hfind : tree.find dir = .ok (middle, .directory))
    (hwalks : Walks tree true 0 middle along (.node location node)) :
    tree.find (dir.join (Path.ofNames along)) = .ok (location, node) := by
  obtain ⟨hdir, hwalksDir⟩ := find_eq_ok_iff.1 hfind
  have hrelative := Path.isAbsolute_ofNames halong
  refine find_eq_ok_iff.2 ⟨hadmissible, ?_⟩
  rw [start_join hrelative]
  rcases names_join hdir.ne_empty hrelative with hjoin | ⟨front, hfront, hjoin⟩
  · rw [hjoin, names_ofNames halong hne]
    exact hwalksDir.append rfl hwalks
  · obtain ⟨left, middle', hwalksFront, hslash⟩ := hwalksDir.of_append hfront (by simp) (.inl ⟨_, _, rfl⟩)
    -- The empty segment at the end of the directory leads nowhere else.
    have hstay : Walks tree true left middle' [""] (.node middle' .directory) := .idle (.inl rfl) .done
    obtain ⟨rfl, -⟩ := Place.node.inj (Except.ok.inj (hslash.walk_eq.symm.trans hstay.walk_eq))
    rw [hjoin, names_ofNames halong hne]
    exact hwalksFront.append rfl hwalks

/-- There are no links below the directory that the path leads to. -/
def LinkFreeBelow (tree : FileTree) (dir : Path) : Prop :=
  ∀ location, tree.find dir = .ok (location, .directory) →
    ∀ below target, tree.get? (location ++ below) ≠ some (.link target)

/-- A tree without links has none below any directory. -/
lemma linkFreeBelow_of_nodes (h : ∀ entry ∈ tree.nodes, ∀ target, entry.2 ≠ .link target) :
    tree.LinkFreeBelow dir := by
  intro location _ below target hget
  have hroot : location ++ below ≠ [] := by
    intro hempty
    rw [hempty, get?_nil] at hget
    cases hget
  exact h _ (mem_nodes_of_get? hroot hget) target rfl

/-- Without links below it, what is found behind a directory lies where the names say. -/
lemma LinkFreeBelow.location_eq (hfree : tree.LinkFreeBelow dir) (hdir : dir.text ≠ "")
    (halong : ∀ name ∈ along, Path.IsName name) (hne : along ≠ [])
    (h : tree.find (dir.join (Path.ofNames along)) = .ok (location, node)) :
    ∃ middle, tree.find dir = .ok (middle, .directory) ∧ location = middle ++ along := by
  obtain ⟨middle, left, hmiddle, hwalks⟩ := exists_of_find_join hdir (Path.isAbsolute_ofNames halong) h
  rw [names_ofNames halong hne] at hwalks
  exact ⟨middle, hmiddle, hwalks.location_eq halong (hfree middle hmiddle)⟩

end

end ClassStub.FileTree
