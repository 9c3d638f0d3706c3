import ClassStub.Bytes
import ClassStub.Path

/-!
# File trees

A file tree is what the program sees of a file system: files, directories and symbolic links, each at a location
given by the names from the root down. Relative paths start at the base of the tree.

Names differ when their texts do, and each file has one location: systems that take names in other letters for the same,
and files with several names that are no links, are left out. The nodes say what an access leads to, and `refuses` which
ones fail for other reasons, as for want of a permission or of room on the disk; of a device, and of a file that other
programs change meanwhile, there is nothing but that.
-/

namespace ClassStub

/-- Why a file operation fails. -/
inductive FileError where
  | missing
  | occupied
  | notDirectory
  | isDirectory
  | nameTooLong
  | linkLoop
  | nulInPath
  | notText
  /-- A reason that the nodes of a tree do not show, in the wording of the system. -/
  | refused (wording : String)
  deriving DecidableEq, Repr

/-- The wording of a file error. -/
def FileError.message : FileError → String
  | missing => "No such file or directory (os error 2)"
  | occupied => "File exists (os error 17)"
  | notDirectory => "Not a directory (os error 20)"
  | isDirectory => "Is a directory (os error 21)"
  | nameTooLong => "File name too long (os error 36)"
  | linkLoop => "Too many levels of symbolic links (os error 40)"
  | nulInPath => "file name contained an unexpected NUL byte"
  | notText => "stream did not contain valid UTF-8"
  | refused wording => wording

/-- What the program asks of the system besides looking at nodes. -/
inductive Access where
  /-- The directory where relative paths start. -/
  | base
  /-- The content of a file. -/
  | read (path : Path)
  /-- The names in a directory. -/
  | list (path : Path)
  | makeDirectory (path : Path)
  | write (path : Path) (content : Bytes)
  /-- To append to a file. -/
  | append (path : Path)
  deriving DecidableEq, Repr

/-- The names from the root down to a place. -/
abbrev Location := List String

/-- What can be at a location. -/
inductive Node where
  | file (content : Bytes)
  | directory
  | link (target : Path)
  deriving DecidableEq, Repr

/-- The files, directories and links of a file system. -/
structure FileTree where
  /-- Where relative paths start. -/
  base : Location
  nodes : List (Location × Node)
  /-- What the system refuses while these are the nodes, though they would allow it. -/
  refuses : List (Location × Node) → Access → Option FileError := fun _ _ => none

namespace FileTree

/-- Why the system refuses an access, if it does. -/
def refusal? (tree : FileTree) (access : Access) : Option FileError := tree.refuses tree.nodes access

/-- The result of an access, or the reason why the system refuses it. -/
def unlessRefused {α : Type} (tree : FileTree) (access : Access) (result : Except FileError α) :
    Except FileError α :=
  match tree.refusal? access with
  | some error => .error error
  | none => result

/-- What is at a location; the root is always a directory. -/
def get? (tree : FileTree) (location : Location) : Option Node :=
  if location = [] then some .directory else tree.nodes.lookup location

/-- Puts a node at a location, in place of what is there. -/
def put (tree : FileTree) (location : Location) (node : Node) : FileTree :=
  if tree.nodes.any fun entry => entry.1 == location then
    { tree with nodes := tree.nodes.map fun entry => if entry.1 == location then (location, node) else entry }
  else { tree with nodes := tree.nodes ++ [(location, node)] }

/-- A tree with nothing but the directories down to its base. -/
def empty (base : Location) : FileTree where
  base := base
  nodes := (List.range base.length).map fun n => (base.take (n + 1), .directory)

/-- The absolute path of a location. -/
def pathOf (location : Location) : Path :=
  ⟨"/" ++ String.intercalate "/" location⟩

/-- The files below a location, with the names from there down. -/
def filesBelow (tree : FileTree) (location : Location) : List (List String × Bytes) :=
  tree.nodes.filterMap fun (place, node) =>
    match node with
    | .file content =>
      if location.isPrefixOf place ∧ location.length < place.length then
        some (place.drop location.length, content)
      else none
    | _ => none

/-- A location and the directories below it, by the names from there down. -/
def directoriesFrom (tree : FileTree) (location : Location) : List (List String) :=
  [] :: tree.nodes.filterMap fun (place, node) =>
    if node = .directory ∧ location.isPrefixOf place ∧ location.length < place.length then
      some (place.drop location.length)
    else none

/-- The path of the directory where relative paths start. -/
def basePath (tree : FileTree) : Except FileError Path :=
  tree.unlessRefused .base (.ok (pathOf tree.base))

/-- The files below the base of the second tree that the first tree does not have with that content. -/
def changes (before after : FileTree) : List (List String × Bytes) :=
  (after.filesBelow after.base).filter fun (names, content) =>
    before.get? (after.base ++ names) != some (.file content)

end FileTree

end ClassStub
