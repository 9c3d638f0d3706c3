import ClassStub.FileTree.Basic
import ClassStub.Text.Utf8

/-!
# Resolving paths

A path is walked segment by segment from the root or the base. Links are followed, at most a fixed number of
them. The walk ends at a node, or at a vacant place in a directory.
-/

namespace ClassStub.FileTree

/-- Where a path leads. -/
inductive Place where
  | node (location : Location) (node : Node)
  /-- Nothing is there, but the directory around it exists; `slash` says that the path ends in a slash. -/
  | vacant (location : Location) (slash : Bool)

/-- The most links that are followed on one path. -/
def maxLinks : Nat := 40

/-- The longest name, in bytes. -/
def maxName : Nat := 255

/-- The length from which a path is too long, in bytes. -/
def maxPath : Nat := 4096

/-- The segments of a path as names. -/
def names (p : Path) : List String := p.segments.map String.ofList

/--
Walks from a directory along names. `onLink` goes on where a link leads away; a link in the last place is followed
only if `follow` is set.
-/
def walkAlong (tree : FileTree) (follow : Bool) (onLink : Location → List String → Except FileError Place) :
    Location → List String → Except FileError Place
  | here, [] => .ok (.node here .directory)
  | here, name :: rest =>
    if name = "" ∨ name = "." then walkAlong tree follow onLink here rest
    else if name = ".." then walkAlong tree follow onLink here.dropLast rest
    else if maxName < name.utf8ByteSize then .error .nameTooLong
    else
      let location := here ++ [name]
      match tree.get? location with
      | none => if rest.all (· == "") then .ok (.vacant location (rest ≠ [])) else .error .missing
      | some .directory => walkAlong tree follow onLink location rest
      | some (.file content) => if rest = [] then .ok (.node location (.file content)) else .error .notDirectory
      | some (.link target) =>
        if rest = [] ∧ !follow then .ok (.node location (.link target))
        else onLink (if target.isAbsolute then [] else here) (names target ++ rest)

/-- Walks from a directory along names and through links, at most so many. -/
def walk (tree : FileTree) (follow : Bool) : (links : Nat) → Location → List String → Except FileError Place
  | 0 => tree.walkAlong follow fun _ _ => .error .linkLoop
  | links + 1 => tree.walkAlong follow (tree.walk follow links)

/-- Where a path leads. -/
def locate (tree : FileTree) (follow : Bool) (p : Path) : Except FileError Place :=
  if p.text.toList.contains '\x00' then .error .nulInPath
  else if p.text = "" then .error .missing
  else if maxPath ≤ p.text.utf8ByteSize then .error .nameTooLong
  else walk tree follow maxLinks (if p.isAbsolute then [] else tree.base) (names p)

/-- The node that a path leads to, with its location. -/
def find (tree : FileTree) (p : Path) : Except FileError (Location × Node) := do
  match ← tree.locate true p with
  | .node location node => return (location, node)
  | .vacant _ _ => throw .missing

/-- The path leads to a file. -/
def isFile (tree : FileTree) (p : Path) : Bool :=
  match tree.find p with
  | .ok (_, .file _) => true
  | _ => false

/-- The path leads to a directory. -/
def isDirectory (tree : FileTree) (p : Path) : Bool :=
  match tree.find p with
  | .ok (_, .directory) => true
  | _ => false

/-- The content of the file that a path leads to. -/
def read (tree : FileTree) (p : Path) : Except FileError Bytes := do
  match ← tree.find p with
  | (_, .file content) => return content
  | _ => throw .isDirectory

/-- The content of the file that a path leads to, unless the system refuses to read it. -/
def readAllowed (tree : FileTree) (p : Path) : Except FileError Bytes :=
  tree.unlessRefused (.read p) (tree.read p)

/-- The text of the file that a path leads to, unless the system refuses to read it. -/
def readText (tree : FileTree) (p : Path) : Except FileError String := do
  match Text.Utf8.decode? (← tree.readAllowed p) with
  | some text => return text
  | none => throw .notText

/-- The path without links and idle segments. -/
def canonical (tree : FileTree) (p : Path) : Except FileError Path := do
  let (location, _) ← tree.find p
  return pathOf location

end ClassStub.FileTree
