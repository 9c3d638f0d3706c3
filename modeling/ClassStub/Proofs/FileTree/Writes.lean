import ClassStub.FileTree.Write
import ClassStub.Proofs.FileTree.Paths
import ClassStub.Proofs.Results

/-!
# What writing changes

Creating directories and writing files change a tree in the way that `Changed` describes: a directory with those above
it adds directories only, and a file is written at the one place that its path leads to from then on.
-/

namespace ClassStub.FileTree

section

variable {tree after : FileTree} {p : Path}

/-- An access has a result when the system does not refuse it and the tree has that result. -/
lemma unlessRefused_eq_ok_iff {α : Type} {access : Access} {result : Except FileError α} {a : α} :
    tree.unlessRefused access result = .ok a ↔ tree.refusal? access = none ∧ result = .ok a := by
  rw [unlessRefused]
  cases tree.refusal? access with
  | some error => exact ⟨nofun, nofun⟩
  | none => exact ⟨fun h => ⟨rfl, h⟩, And.right⟩

/-- A new directory is no write. -/
lemma changed_of_makeDirectory (h : tree.makeDirectory p = .ok after) : tree.Changed [] after := by
  obtain ⟨-, h⟩ := unlessRefused_eq_ok_iff.1 h
  obtain ⟨place, hlocate, h⟩ := bind_eq_ok_iff.1 h
  cases place with
  | node => cases h
  | vacant location slash =>
    cases h
    obtain ⟨hroot, hvacant⟩ := (locate_eq_ok_iff.1 hlocate).2.get?_vacant rfl
    exact changed_put_directory hroot hvacant

/-- Each level adds a directory or finds it there, and what the levels above have added stays when one fails. -/
lemma changed_makeLevels (tree : FileTree) (p : Path) (levels : Nat) :
    tree.Changed [] (tree.makeLevels p levels).2 := by
  induction levels generalizing p with
  | zero => exact .refl tree
  | succ levels ih =>
    rw [makeLevels]
    split
    · exact .refl tree
    · split
      · rename_i made hmade
        exact changed_of_makeDirectory hmade
      · split
        · exact .refl tree
        · rename_i parent _
          have habove := ih parent
          split
          · rename_i error above heq
            rwa [heq] at habove
          · rename_i above heq
            rw [heq] at habove
            split
            · rename_i made hmade
              exact habove.trans (changed_of_makeDirectory hmade)
            · exact habove
      · exact .refl tree

/-- Creating a directory with those above it adds directories and nothing else, whether it succeeds or not. -/
lemma changed_makeDirectories (tree : FileTree) (p : Path) : tree.Changed [] (tree.makeDirectories p).2 :=
  changed_makeLevels tree p _

/-- A file can be written where a file is or where there is nothing. -/
lemma writable_eq_ok {location : Location} (h : tree.writable p = .ok location) :
    (∃ old, tree.locate true p = .ok (.node location (.file old))) ∨
      tree.locate true p = .ok (.vacant location false) := by
  obtain ⟨place, hlocate, h⟩ := bind_eq_ok_iff.1 h
  cases place with
  | node location' node =>
    cases node with
    | file old =>
      cases h
      exact .inl ⟨old, hlocate⟩
    | directory => cases h
    | link target => cases h
  | vacant location' slash =>
    cases slash with
    | true => cases h
    | false =>
      cases h
      exact .inr hlocate

/-- A file is written at one place, and its path leads there afterwards. -/
lemma changed_of_write {location : Location} {content : Bytes} (h : tree.write p content = .ok (location, after)) :
    tree.Changed [(location, content)] after ∧ after.find p = .ok (location, .file content) := by
  obtain ⟨-, h⟩ := unlessRefused_eq_ok_iff.1 h
  obtain ⟨location, hwritable, h⟩ := bind_eq_ok_iff.1 h
  cases h
  rcases writable_eq_ok hwritable with ⟨old, hlocate⟩ | hlocate
  · have hget := (locate_eq_ok_iff.1 hlocate).2.get?_file rfl
    have hroot := ne_nil_of_get?_file hget
    have hchanged := changed_put_file hroot (.inr ⟨old, hget⟩) content
    obtain ⟨node, hfind, halike⟩ := hchanged.keeps.find (find_eq_ok_iff_locate.2 hlocate)
    cases halike with
    | file _ new =>
      have hnew := get?_of_find hfind
      rw [get?_put hroot, if_pos rfl] at hnew
      cases hnew
      exact ⟨hchanged, hfind⟩
  · obtain ⟨hp, hwalks⟩ := locate_eq_ok_iff.1 hlocate
    obtain ⟨hroot, hvacant⟩ := hwalks.get?_vacant rfl
    have hchanged := changed_put_file hroot (.inl hvacant) content
    have hget : (tree.put location (.file content)).get? location = some (.file content) := by
      rw [get?_put hroot, if_pos rfl]
    have hfill := hwalks.fill hchanged.keeps rfl hget
    rw [← hchanged.keeps.start] at hfill
    exact ⟨hchanged, find_eq_ok_iff.2 ⟨hp, hfill⟩⟩

/-- Appending to a file takes nothing away. -/
lemma keeps_append (location : Location) (content : Bytes) : tree.Keeps (tree.append location content) := by
  rw [append]
  split
  · rename_i old hget
    have hroot := ne_nil_of_get?_file hget
    exact (changed_put_file hroot (.inr ⟨old, hget⟩) _).keeps
  · exact .refl tree

end

end ClassStub.FileTree
