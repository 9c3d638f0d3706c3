import ClassStub.FileTree.Resolve

/-!
# Changing a file tree

Files are created or replaced, directories are created with those above them, links are placed. A file is written as a
whole or not at all. When a directory cannot be created, those above it that were created for it stay.
-/

namespace ClassStub.FileTree

/-- Creates a directory where there is nothing. -/
def makeDirectory (tree : FileTree) (p : Path) : Except FileError FileTree :=
  tree.unlessRefused (.makeDirectory p) do
    match ← tree.locate false p with
    | .node _ _ => throw .occupied
    | .vacant location _ => return tree.put location .directory

/-- Takes a failure to create a directory that is there for a success. -/
def acceptExisting (tree : FileTree) (p : Path) (error : FileError) : Except FileError Unit :=
  if tree.isDirectory p then .ok () else .error error

/-- Creates a directory and those above it, up to a number of levels, and gives the tree with what was created. -/
def makeLevels (tree : FileTree) (p : Path) : Nat → Except FileError Unit × FileTree
  | 0 => (.error .missing, tree)
  | levels + 1 =>
    if p.text = "" then (.ok (), tree)
    else
      match tree.makeDirectory p with
      | .ok made => (.ok (), made)
      | .error .missing =>
        match p.parent? with
        | none => (.error .missing, tree)
        | some parent =>
          match tree.makeLevels parent levels with
          | (.error error, above) => (.error error, above)
          | (.ok (), above) =>
            match above.makeDirectory p with
            | .ok made => (.ok (), made)
            | .error error => (above.acceptExisting p error, above)
      | .error error => (tree.acceptExisting p error, tree)

/-- Creates a directory and those above it, as far as they are missing. -/
def makeDirectories (tree : FileTree) (p : Path) : Except FileError Unit × FileTree :=
  tree.makeLevels p (p.segments.length + 1)

/-- The location of a file that can be written: one that is there, or a vacant place. -/
def writable (tree : FileTree) (p : Path) : Except FileError Location := do
  match ← tree.locate true p with
  | .node location (.file _) => return location
  | .node _ _ => throw .isDirectory
  | .vacant location slash => if slash then throw .isDirectory else return location

/-- Creates or replaces a file, and gives its location. -/
def write (tree : FileTree) (p : Path) (content : Bytes) : Except FileError (Location × FileTree) :=
  tree.unlessRefused (.write p content) do
    let location ← tree.writable p
    return (location, tree.put location (.file content))

/-- Opens a file to append to it; one that is missing is created empty. -/
def openAppend (tree : FileTree) (p : Path) : Except FileError (Location × FileTree) :=
  tree.unlessRefused (.append p) do
    let location ← tree.writable p
    match tree.get? location with
    | some _ => return (location, tree)
    | none => return (location, tree.put location (.file []))

/-- Appends to the file at a location. -/
def append (tree : FileTree) (location : Location) (content : Bytes) : FileTree :=
  match tree.get? location with
  | some (.file old) => tree.put location (.file (old ++ content))
  | _ => tree

/-- Places a link. -/
def makeLink (tree : FileTree) (p target : Path) : Except FileError FileTree := do
  match ← tree.locate false p with
  | .node _ _ => throw .occupied
  | .vacant location _ => return tree.put location (.link target)

end ClassStub.FileTree
