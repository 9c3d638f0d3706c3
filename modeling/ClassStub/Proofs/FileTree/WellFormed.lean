import Mathlib.Data.List.Induction
import Mathlib.Data.List.Nodup
import ClassStub.Proofs.FileTree.Paths

/-!
# Well-formed file trees

What holds of the files, directories and links of any file system: there is one node at a place, names are names, and
every node is in a directory. In such a tree the files below a directory are found along their names, and it does not
matter in which order the nodes are listed.
-/

namespace ClassStub.FileTree

/-- The nodes fit together. -/
structure WellFormed (tree : FileTree) : Prop where
  distinct : (tree.nodes.map Prod.fst).Nodup
  named : ∀ entry ∈ tree.nodes, ∀ name ∈ entry.1, Path.IsName name
  short : ∀ entry ∈ tree.nodes, ∀ name ∈ entry.1, name.utf8ByteSize ≤ maxName
  placed : ∀ entry ∈ tree.nodes, tree.get? entry.1.dropLast = some .directory

/-- Whether a tree is well-formed is decided node by node. -/
instance (tree : FileTree) : Decidable tree.WellFormed :=
  decidable_of_iff ((tree.nodes.map Prod.fst).Nodup ∧
      (∀ entry ∈ tree.nodes, ∀ name ∈ entry.1, Path.IsName name) ∧
      (∀ entry ∈ tree.nodes, ∀ name ∈ entry.1, name.utf8ByteSize ≤ maxName) ∧
      ∀ entry ∈ tree.nodes, tree.get? entry.1.dropLast = some .directory)
    ⟨fun ⟨hdistinct, hnamed, hshort, hplaced⟩ => ⟨hdistinct, hnamed, hshort, hplaced⟩,
      fun h => ⟨h.distinct, h.named, h.short, h.placed⟩⟩

section

variable {tree : FileTree} {location : Location}

/-- At different locations there are the nodes that the tree has for them, and no others. -/
lemma get?_eq_some_iff {node : Node} (hdistinct : (tree.nodes.map Prod.fst).Nodup) (hroot : location ≠ []) :
    tree.get? location = some node ↔ (location, node) ∈ tree.nodes := by
  refine ⟨mem_nodes_of_get? hroot, ?_⟩
  intro hmem
  obtain ⟨node', hnode'⟩ := Option.isSome_iff_exists.1
    (List.lookup_isSome_iff.2 ⟨_, hmem, beq_self_eq_true location⟩)
  rw [← get?_of_ne hroot] at hnode'
  have hsame := List.inj_on_of_nodup_map hdistinct (mem_nodes_of_get? hroot hnode') hmem rfl
  rw [hnode', (Prod.mk.inj hsame).2]

/-- What has something below is a directory. -/
lemma WellFormed.get?_above {front back : Location} {node : Node} (h : tree.WellFormed)
    (hget : tree.get? (front ++ back) = some node) (hback : back ≠ []) : tree.get? front = some .directory := by
  -- From the end, since each node is placed in the directory right above it.
  induction back using List.reverseRecOn generalizing node with
  | nil => contradiction
  | append_singleton back name ih =>
    have hroot : front ++ (back ++ [name]) ≠ [] := by simp
    have hplaced := h.placed _ ((get?_eq_some_iff h.distinct hroot).1 hget)
    rw [← List.append_assoc, List.dropLast_concat] at hplaced
    by_cases hempty : back = []
    · rwa [hempty, List.append_nil] at hplaced
    · exact ih hplaced hempty

/-- What the files below a directory are listed from. -/
lemma eq_of_filesBelow {entry : Location × Node} {file : List String × Bytes} :
    (match entry.2 with
      | .file content =>
        if location.isPrefixOf entry.1 ∧ location.length < entry.1.length then
          some (entry.1.drop location.length, content)
        else none
      | _ => none) = some file ↔ file.1 ≠ [] ∧ entry = (location ++ file.1, .file file.2) := by
  obtain ⟨place, node⟩ := entry
  obtain ⟨names, content⟩ := file
  constructor
  · intro h
    cases node with
    | directory => cases h
    | link target => cases h
    | file content' =>
      dsimp only at h
      split at h
      · rename_i hbelow
        obtain ⟨below, rfl⟩ := List.isPrefixOf_iff_prefix.1 hbelow.1
        rw [List.drop_left] at h
        cases h
        refine ⟨?_, rfl⟩
        rintro rfl
        simp at hbelow
      · cases h
  · rintro ⟨hne, h⟩
    cases h
    have hlength := List.length_pos_iff.2 hne
    dsimp only at hlength ⊢
    rw [if_pos, List.drop_left]
    exact ⟨List.isPrefixOf_iff_prefix.2 (List.prefix_append _ _), by rw [List.length_append]; omega⟩

/-- The files below a directory. -/
lemma WellFormed.mem_filesBelow_iff {file : List String × Bytes} (h : tree.WellFormed) :
    file ∈ tree.filesBelow location ↔ file.1 ≠ [] ∧ tree.get? (location ++ file.1) = some (.file file.2) := by
  rw [filesBelow, List.mem_filterMap]
  constructor
  · rintro ⟨entry, hentry, hfile⟩
    obtain ⟨hne, rfl⟩ := eq_of_filesBelow.1 hfile
    exact ⟨hne, (get?_eq_some_iff h.distinct (by simp [hne])).2 hentry⟩
  · rintro ⟨hne, hget⟩
    have hentry := (get?_eq_some_iff h.distinct (by simp [hne])).1 hget
    exact ⟨_, hentry, eq_of_filesBelow.2 ⟨hne, rfl⟩⟩

/-- No two files below a location have the same path. -/
lemma WellFormed.nodup_filesBelow (h : tree.WellFormed) (location : Location) :
    ((tree.filesBelow location).map Prod.fst).Nodup := by
  have hdistinct := h.distinct
  rw [List.Nodup, List.pairwise_map] at hdistinct ⊢
  rw [filesBelow, List.pairwise_filterMap]
  refine hdistinct.imp ?_
  intro entry entry' hne file hfile file' hfile' hsame
  obtain ⟨-, rfl⟩ := eq_of_filesBelow.1 hfile
  obtain ⟨-, rfl⟩ := eq_of_filesBelow.1 hfile'
  exact hne (congrArg (location ++ ·) hsame)

/-- The names on the way to a file below a location are names. -/
lemma WellFormed.isName_of_mem_filesBelow {file : List String × Bytes} (h : tree.WellFormed)
    (hfile : file ∈ tree.filesBelow location) : ∀ name ∈ file.1, Path.IsName name := by
  obtain ⟨hne, hget⟩ := h.mem_filesBelow_iff.1 hfile
  have hentry := (get?_eq_some_iff h.distinct (by simp [hne])).1 hget
  exact fun name hname => h.named _ hentry name (List.mem_append_right location hname)

/-- From a directory, a file below is found along its names. -/
lemma WellFormed.walks {here : Location} {names : List String} {content : Bytes} (h : tree.WellFormed)
    (hne : names ≠ []) (hget : tree.get? (here ++ names) = some (.file content)) (follow : Bool) (links : Nat) :
    Walks tree follow links here names (.node (here ++ names) (.file content)) := by
  have hstep : ∀ name ∈ names, IsStep name := by
    have hentry := (get?_eq_some_iff h.distinct (by simp [hne])).1 hget
    intro name hname
    have hmem : name ∈ here ++ names := List.mem_append_right here hname
    have hisName := h.named _ hentry name hmem
    exact ⟨hisName.ne_empty, hisName.ne_here, hisName.ne_above, h.short _ hentry name hmem⟩
  induction names generalizing here with
  | nil => contradiction
  | cons name names ih =>
    rw [List.forall_mem_cons] at hstep
    by_cases hlast : names = []
    · subst hlast
      exact .file hstep.1 hget
    · rw [← List.singleton_append, ← List.append_assoc] at hget
      have hrest := ih hlast hget hstep.2
      rw [List.append_assoc, List.singleton_append] at hrest
      exact .directory hstep.1 (h.get?_above hget hlast) hrest

end

/-! ### The order of the nodes -/

section

variable {tree tree' : FileTree}

/-- The order of the nodes does not show in what is found at a location. -/
lemma WellFormed.get?_eq_of_perm (h : tree.WellFormed) (hperm : tree.nodes.Perm tree'.nodes) (location : Location) :
    tree'.get? location = tree.get? location := by
  by_cases hroot : location = []
  · rw [hroot, get?_nil, get?_nil]
  · have hdistinct : (tree'.nodes.map Prod.fst).Nodup := (hperm.map Prod.fst).nodup_iff.1 h.distinct
    ext node
    rw [get?_eq_some_iff hdistinct hroot, get?_eq_some_iff h.distinct hroot, hperm.mem_iff]

/-- Trees with the same nodes at all locations are walked alike. -/
lemma walkAlong_congr (hget : ∀ location, tree'.get? location = tree.get? location) {follow : Bool}
    {onLink : Location → List String → Except FileError Place} :
    tree'.walkAlong follow onLink = tree.walkAlong follow onLink := by
  funext here names
  induction names generalizing here with
  | nil => rfl
  | cons name names ih => simp only [walkAlong, hget, ih]

/-- A path leads to the same node when the nodes are the same. -/
lemma find_congr (hbase : tree'.base = tree.base) (hget : ∀ location, tree'.get? location = tree.get? location)
    (p : Path) : tree'.find p = tree.find p := by
  have hwalk : ∀ follow links, tree'.walk follow links = tree.walk follow links := by
    intro follow links
    induction links with
    | zero => rw [walk, walk, walkAlong_congr hget]
    | succ links ih => rw [walk, walk, walkAlong_congr hget, ih]
  rw [find, find, locate, locate, hwalk, hbase]

end

end ClassStub.FileTree
