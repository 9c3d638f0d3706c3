import ClassStub.Archive.Basic
import ClassStub.Proofs.FileTree.Paths
import ClassStub.Proofs.Results

/-!
# What kind of input it is

An input whose classes were listed is of the same kind for the rest of a run, and its entries come from the same
places: a directory stays one, and a file stays one whatever is written to it.
-/

namespace ClassStub.Archive

section

variable {a : Archive} {tree : FileTree}

/-- The content of a file is what the tree gives for it. -/
lemma readFile_eq_ok_iff {p : Path} {bytes : Bytes} : readFile tree p = .ok bytes ↔ tree.read p = .ok bytes :=
  mapError_eq_ok_iff

/-- An input is a directory exactly if the tree has one at its path. -/
lemma kind_eq_directory_iff : a.kind tree = .directory ↔ tree.isDirectory a.path = true := by
  rw [kind]
  split
  · rename_i h
    exact ⟨fun _ => h, fun _ => rfl⟩
  · rename_i h
    split
    · exact ⟨nofun, fun h' => absurd h' h⟩
    · exact ⟨nofun, fun h' => absurd h' h⟩

/-- An input that is no directory is a file when its classes can be listed. -/
lemma exists_read_of_allEntries {entries : List Entry} (h : a.allEntries tree = .ok entries)
    (hkind : a.kind tree ≠ .directory) : ∃ bytes, tree.read a.path = .ok bytes := by
  rw [allEntries] at h
  split at h
  · obtain ⟨bytes, hread, -⟩ := bind_eq_ok_iff.1 h
    exact ⟨bytes, readFile_eq_ok_iff.1 hread⟩
  · contradiction
  · obtain ⟨items, hitems, -⟩ := bind_eq_ok_iff.1 h
    obtain ⟨bytes, hread, -⟩ := bind_eq_ok_iff.1 hitems
    exact ⟨bytes, readFile_eq_ok_iff.1 hread⟩

end

/-- What the system lets the program list are the entries of the input. -/
lemma entries_of_list {a : Archive} {tree : FileTree} {entries : List Entry} (h : a.list tree = .ok entries) :
    a.entries tree = .ok entries := by
  rw [list] at h
  split at h
  · cases h
  · exact h

/-- The kind of an input stays the same once its classes were listed. -/
lemma kind_of_keeps {a : Archive} {before after : FileTree} {entries : List Entry}
    (h : a.entries before = .ok entries) (hkeeps : before.Keeps after) : a.kind after = a.kind before := by
  obtain ⟨found, hfound, -⟩ := bind_eq_ok_iff.1 h
  have hdirectory : after.isDirectory a.path = before.isDirectory a.path := by
    by_cases hkind : a.kind before = .directory
    · have hbefore := kind_eq_directory_iff.1 hkind
      obtain ⟨location, hfind⟩ := FileTree.isDirectory_iff.1 hbefore
      obtain ⟨node, hfind', halike⟩ := hkeeps.find hfind
      cases halike with
      | directory => rw [hbefore, FileTree.isDirectory_iff.2 ⟨location, hfind'⟩]
    · obtain ⟨bytes, hread⟩ := exists_read_of_allEntries hfound hkind
      obtain ⟨location, hfind⟩ := FileTree.read_eq_ok_iff.1 hread
      obtain ⟨node, hfind', halike⟩ := hkeeps.find hfind
      cases halike with
      | file _ new => rw [FileTree.isDirectory, FileTree.isDirectory, hfind, hfind']
  rw [kind, kind, hdirectory]

/-- Where an entry comes from is told the same way in a tree that keeps what was there. -/
lemma origin_of_keeps {a : Archive} {before after : FileTree} {entries : List Entry}
    (h : a.entries before = .ok entries) (hkeeps : before.Keeps after) (name : String) :
    a.origin after name = a.origin before name := by
  rw [origin, origin, kind_of_keeps h hkeeps]

end ClassStub.Archive
