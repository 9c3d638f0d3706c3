import Mathlib.Data.List.Basic
import ClassStub.FileTree.Basic

/-!
# What can change in a file tree

The program changes a file tree in two ways only: it creates directories where there is nothing, and it writes files
where there is a file or nothing. `Changed` says that two trees differ by a row of such writes, the last one at each
place counting, and by new directories. `Keeps` is what is left of it when one does not ask for the writes: all that
was there is still there, except that files may have another content.
-/

namespace ClassStub

/-- What was a file is a file, and all else is as it was. -/
inductive Node.Alike : Node → Node → Prop where
  | file (old new : Bytes) : Alike (.file old) (.file new)
  | directory : Alike .directory .directory
  | link (target : Path) : Alike (.link target) (.link target)

/-- A node is like itself. -/
lemma Node.Alike.refl (node : Node) : node.Alike node := by
  cases node with
  | file content => exact .file content content
  | directory => exact .directory
  | link target => exact .link target

/-- What is like a node that is like another one is like that one. -/
lemma Node.Alike.trans {a b c : Node} (hab : a.Alike b) (hbc : b.Alike c) : a.Alike c := by
  cases hab with
  | file old mid =>
    cases hbc with
    | file _ new => exact .file old new
  | directory => exact hbc
  | link target => exact hbc

namespace FileTree

section

variable {tree : FileTree} {location : Location} {node : Node}

/-- The root of a tree is a directory. -/
@[simp]
lemma get?_nil : tree.get? [] = some .directory := if_pos rfl

/-- Anywhere but at the root there is what the nodes say. -/
lemma get?_of_ne (h : location ≠ []) : tree.get? location = tree.nodes.lookup location := if_neg h

/-- What is found below the root is a node of the tree. -/
lemma mem_nodes_of_get? (hroot : location ≠ []) (h : tree.get? location = some node) :
    (location, node) ∈ tree.nodes := by
  rw [get?_of_ne hroot] at h
  obtain ⟨front, back, hnodes, -⟩ := List.lookup_eq_some_iff.1 h
  simp [hnodes]

/-- The root is no file. -/
lemma ne_nil_of_get?_file {content : Bytes} (h : tree.get? location = some (.file content)) : location ≠ [] := by
  rintro rfl
  cases get?_nil.symm.trans h

/-- Putting a node in its place leaves relative paths where they begin. -/
@[simp]
lemma base_put : (tree.put location node).base = tree.base := by
  rw [put]
  split <;> rfl

/-- Replacing a node in a list changes what is found at its place and nothing else. -/
lemma lookup_replace (nodes : List (Location × Node)) (other : Location) :
    (nodes.map fun entry => if entry.1 == location then (location, node) else entry).lookup other =
      if other = location then (nodes.lookup other).map fun _ => node else nodes.lookup other := by
  induction nodes with
  | nil => simp
  | cons entry nodes ih =>
    obtain ⟨place, old⟩ := entry
    rw [List.map_cons]
    by_cases hother : other = place
    · subst hother
      by_cases hplace : other = location
      · simp [hplace]
      · simp [hplace]
    · have hne : (other == place) = false := by simpa using hother
      have hskip : ((if (place == location) then (location, node) else (place, old) : Location × Node)).1 = place := by
        split
        · rename_i hplace
          exact (beq_iff_eq.1 hplace).symm
        · rfl
      rw [List.lookup_cons, hskip, hne, ih, List.lookup_cons, hne]

/-- What is put at a place is there, and elsewhere everything is as it was. -/
lemma get?_put (h : location ≠ []) (other : Location) :
    (tree.put location node).get? other = if other = location then some node else tree.get? other := by
  by_cases hroot : other = []
  · subst hroot
    simp [h.symm]
  rw [get?_of_ne hroot, get?_of_ne hroot, put]
  split
  · rename_i hany
    obtain ⟨entry, hmem, hplace⟩ := List.any_eq_true.1 hany
    rw [lookup_replace]
    by_cases hother : other = location
    · have hfound : (tree.nodes.lookup other).isSome := by
        rw [Option.isSome_iff_ne_none, ne_eq, List.lookup_eq_none_iff]
        intro hnone
        have hne := hnone entry hmem
        rw [hother, beq_iff_eq.1 hplace] at hne
        simp at hne
      obtain ⟨old, hold⟩ := Option.isSome_iff_exists.1 hfound
      rw [if_pos hother, if_pos hother, hold]
      rfl
    · rw [if_neg hother, if_neg hother]
  · rename_i hany
    rw [List.lookup_append]
    by_cases hother : other = location
    · subst hother
      have hnone : tree.nodes.lookup other = none := by
        rw [List.lookup_eq_none_iff]
        intro entry hmem
        by_contra hfound
        have hplace : other = entry.1 := by simpa using hfound
        exact hany (List.any_eq_true.2 ⟨entry, hmem, beq_iff_eq.2 hplace.symm⟩)
      simp [hnone]
    · have hne : (other == location) = false := by simpa using hother
      simp [List.lookup_cons, hne, hother]

end

/-- All nodes of the first tree are in the second one, files perhaps with another content. -/
structure Keeps (before after : FileTree) : Prop where
  base : after.base = before.base
  node : ∀ {location node}, before.get? location = some node →
    ∃ node', after.get? location = some node' ∧ node.Alike node'

/-- A tree keeps what it has. -/
lemma Keeps.refl (tree : FileTree) : tree.Keeps tree where
  base := rfl
  node h := ⟨_, h, .refl _⟩

/-- What is kept twice is kept. -/
lemma Keeps.trans {a b c : FileTree} (hab : a.Keeps b) (hbc : b.Keeps c) : a.Keeps c where
  base := hbc.base.trans hab.base
  node h := by
    obtain ⟨mid, hmid, hfirst⟩ := hab.node h
    obtain ⟨last, hlast, hsecond⟩ := hbc.node hmid
    exact ⟨last, hlast, hfirst.trans hsecond⟩

/-- What can become of one place, with the content that was written there last. -/
inductive Change : Option Node → Option Bytes → Option Node → Prop where
  | same (node : Option Node) : Change node none node
  | directory : Change none none (some .directory)
  | created (content : Bytes) : Change none (some content) (some (.file content))
  | replaced (old content : Bytes) : Change (some (.file old)) (some content) (some (.file content))

/-- Two changes of one place are one change, and the content that was written later counts. -/
lemma Change.trans {a b c : Option Node} {first second : Option Bytes} (hab : Change a first b)
    (hbc : Change b second c) : Change a (second.or first) c := by
  cases hab with
  | same => simpa using hbc
  | directory =>
    cases hbc with
    | same => exact .directory
  | created content =>
    cases hbc with
    | same => exact .created content
    | replaced _ content' => exact .created content'
  | replaced old content =>
    cases hbc with
    | same => exact .replaced old content
    | replaced _ content' => exact .replaced old content'

/-- The content that was written last at a place. -/
def lastWrite (writes : List (Location × Bytes)) (location : Location) : Option Bytes :=
  writes.reverse.lookup location

/-- Of two rows of writes the second one counts, and the first one only where the second one wrote nothing. -/
lemma lastWrite_append (first second : List (Location × Bytes)) (location : Location) :
    lastWrite (first ++ second) location = (lastWrite second location).or (lastWrite first location) := by
  rw [lastWrite, List.reverse_append, List.lookup_append]
  rfl

/-- The second tree is the first one after a row of writes, and perhaps with more directories. -/
structure Changed (before : FileTree) (writes : List (Location × Bytes)) (after : FileTree) : Prop where
  base : after.base = before.base
  change : ∀ location, Change (before.get? location) (lastWrite writes location) (after.get? location)

/-- Without a write nothing changes. -/
lemma Changed.refl (tree : FileTree) : tree.Changed [] tree where
  base := rfl
  change _ := .same _

/-- Changes with two rows of writes are one change with both rows. -/
lemma Changed.trans {a b c : FileTree} {first second : List (Location × Bytes)} (hab : a.Changed first b)
    (hbc : b.Changed second c) : a.Changed (first ++ second) c where
  base := hbc.base.trans hab.base
  change location := by
    rw [lastWrite_append]
    exact (hab.change location).trans (hbc.change location)

/-- Writes and new directories keep all that was there. -/
lemma Changed.keeps {before after : FileTree} {writes : List (Location × Bytes)}
    (h : before.Changed writes after) : before.Keeps after where
  base := h.base
  node {location node} hnode := by
    have hchange := h.change location
    rw [hnode] at hchange
    generalize lastWrite writes location = written at hchange
    generalize hafter : after.get? location = result at hchange
    cases hchange with
    | same => exact ⟨node, rfl, .refl node⟩
    | replaced old content => exact ⟨_, rfl, .file old content⟩

section

variable {before after : FileTree} {writes : List (Location × Bytes)} {location : Location}

/-- What was written last at a place is there. -/
lemma Changed.get?_of_lastWrite {content : Bytes} (h : before.Changed writes after)
    (hlast : lastWrite writes location = some content) : after.get? location = some (.file content) := by
  have hchange := h.change location
  rw [hlast] at hchange
  generalize before.get? location = old at hchange
  generalize after.get? location = new at hchange ⊢
  cases hchange with
  | created => rfl
  | replaced => rfl

/-- Where nothing was written, a file is as it was, and none is new. -/
lemma Changed.get?_file_iff (h : before.Changed writes after) (hlast : lastWrite writes location = none)
    (content : Bytes) : after.get? location = some (.file content) ↔ before.get? location = some (.file content) := by
  have hchange := h.change location
  rw [hlast] at hchange
  generalize before.get? location = old at hchange ⊢
  generalize after.get? location = new at hchange ⊢
  cases hchange with
  | same => exact Iff.rfl
  | directory => exact ⟨nofun, nofun⟩

/-- Links stay where they are, and none is new. -/
lemma Changed.get?_link_iff (h : before.Changed writes after) (target : Path) :
    after.get? location = some (.link target) ↔ before.get? location = some (.link target) := by
  have hchange := h.change location
  generalize lastWrite writes location = written at hchange
  generalize before.get? location = old at hchange ⊢
  generalize after.get? location = new at hchange ⊢
  cases hchange with
  | same => exact Iff.rfl
  | directory => exact ⟨nofun, nofun⟩
  | created => exact ⟨nofun, nofun⟩
  | replaced => exact ⟨nofun, nofun⟩

end

section

variable {tree : FileTree} {location : Location}

/-- A directory that is put where there is nothing writes no file. -/
lemma changed_put_directory (hroot : location ≠ []) (h : tree.get? location = none) :
    tree.Changed [] (tree.put location .directory) where
  base := base_put
  change other := by
    rw [get?_put hroot]
    by_cases hother : other = location
    · rw [if_pos hother, hother, h]
      exact .directory
    · rw [if_neg hother]
      exact .same _

/-- A file can be put where there is nothing or a file. -/
lemma changed_put_file (hroot : location ≠ [])
    (h : tree.get? location = none ∨ ∃ old, tree.get? location = some (.file old)) (content : Bytes) :
    tree.Changed [(location, content)] (tree.put location (.file content)) where
  base := base_put
  change other := by
    rw [get?_put hroot, lastWrite, List.reverse_singleton]
    by_cases hother : other = location
    · subst hother
      rw [if_pos rfl, List.lookup_cons_self]
      rcases h with hnone | ⟨old, hold⟩
      · rw [hnone]
        exact .created content
      · rw [hold]
        exact .replaced old content
    · have hne : (other == location) = false := by simpa using hother
      rw [if_neg hother, List.lookup_cons, hne]
      exact .same _

end

end FileTree

end ClassStub
