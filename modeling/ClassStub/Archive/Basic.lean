import ClassStub.Archive.Entry
import ClassStub.FileTree.Resolve
import ClassStub.Log.Event
import ClassStub.Zip.Directory

/-!
# Inputs

Classes come from a class file, from a directory of class files, or from a zip file. `Archive.entries` lists the
classes of an input by their entry names, in order; `Archive.read` gives one entry.
-/

namespace ClassStub

/-- An input, by its path. -/
structure Archive where
  path : Path
  deriving DecidableEq, Repr

namespace Archive

/-- What an input can be. -/
inductive Kind where
  | classFile
  | directory
  | zip
  deriving DecidableEq, Repr

/-- Why content cannot be read. -/
inductive Cause where
  | file (error : FileError)
  | data (fault : Zip.DataFault)
  deriving DecidableEq, Repr

/-- The wording of a cause. -/
def Cause.message : Cause → String
  | file error => error.message
  | data fault => fault.message

/-- Why an input cannot be read. -/
inductive Fault where
  /-- A file or an item cannot be read. -/
  | unreadable (path : String) (cause : Cause)
  /-- The file is no zip file, or an item of it cannot be opened. -/
  | badZip (path : String)
  /-- The names in a directory cannot be read. -/
  | unlisted (path : String) (error : FileError)
  deriving DecidableEq, Repr

/-- What is wrong, without the place. -/
def Fault.cause : Fault → String
  | unreadable _ cause => cause.message
  | badZip _ => "invalid Zip archive"
  | unlisted _ error => error.message

/-- The wording of a fault. -/
def Fault.message : Fault → String
  | unreadable path cause => "failed to read " ++ path ++ ": " ++ cause.message
  | badZip path => "failed to read zip " ++ path ++ ": " ++ (badZip path).cause
  | unlisted path error => "IO error for operation on " ++ path ++ ": " ++ error.message

/-- The path has the extension of class files. -/
def hasClassExtension (p : Path) : Bool :=
  p.extension? == some "class"

/-- A directory is read as one, whatever its name; what is neither that nor named as a class is a zip file. -/
def kind (a : Archive) (tree : FileTree) : Kind :=
  if tree.isDirectory a.path then .directory
  else if hasClassExtension a.path then .classFile
  else .zip

/-- The content of a file. -/
def readFile (tree : FileTree) (p : Path) : Except Fault Bytes :=
  (tree.read p).mapError fun error => .unreadable p.text (.file error)

/-- How messages call an item of a zip file. -/
def itemPath (a : Archive) (name : String) : String :=
  a.path.text ++ "!/" ++ name

/-- The items of a zip file. -/
def zipItems (a : Archive) (tree : FileTree) : Except Fault (List Zip.Item) := do
  let file ← readFile tree a.path
  match Zip.items? file with
  | some items => return items
  | none => throw (.badZip a.path.text)

/-- Fails for an item that cannot be opened. -/
def openItem (a : Archive) (item : Zip.Item) : Except Fault Unit :=
  if item.isReadable then .ok () else .error (.badZip a.path.text)

/-- The content of an item that can be opened. -/
def itemContent (a : Archive) (item : Zip.Item) : Except Fault Bytes :=
  item.content.mapError fun fault => .unreadable (a.itemPath item.name) (.data fault)

/-- The content of the item with a name, none if there is no such item. -/
def readItem (a : Archive) (name : String) (items : List Zip.Item) : Except Fault (Option Bytes) :=
  match items.find? fun item => item.name == name with
  | none => .ok none
  | some item => do
    a.openItem item
    return some (← a.itemContent item)

/-- The path has a file name, and a name ends in the same one. -/
def namesFile (p : Path) (name : String) : Bool :=
  p.fileName?.isSome && p.fileName? == (Path.mk name).fileName?

/-- The content of an entry, none if there is no such entry. -/
def read (a : Archive) (tree : FileTree) (name : String) : Except Fault (Option Bytes) :=
  match a.kind tree with
  | .classFile => if namesFile a.path name then some <$> readFile tree a.path else .ok none
  | .directory =>
    let file := a.path.join ⟨name⟩
    if tree.isFile file then some <$> readFile tree file else .ok none
  | .zip => do a.readItem name (← a.zipItems tree)

/-- The name of a file below a directory. -/
def entryName (names : List String) : String := String.intercalate "/" names

/-- The file is a class file, by its last name. -/
def isClassFile (names : List String) : Bool :=
  hasClassExtension ⟨names.getLast?.getD ""⟩

/-- The path of a file below a directory, name after name. -/
def filePath (a : Archive) (names : List String) : Path :=
  names.foldl (fun path name => path.join ⟨name⟩) a.path

/-- The entry of a file below a directory. -/
def fileEntry (a : Archive) (tree : FileTree) (names : List String) : Except Fault Entry := do
  return ⟨entryName names, ← readFile tree (a.filePath names)⟩

/-- The class files in a directory. -/
def directoryEntries (a : Archive) (tree : FileTree) : Except Fault (List Entry) :=
  match tree.find a.path with
  | .ok (location, .directory) =>
    (((tree.filesBelow location).map Prod.fst).filter isClassFile).mapM (a.fileEntry tree)
  | _ => .ok []

/-- The directory of a zip file for what is not meant as a class. -/
def metaDirectory : List Char := "META-INF/".toList

/-- An item of a zip file is taken for a class, by its name. -/
def isClassItem (item : Zip.Item) : Bool :=
  item.isFile && classSuffix.isSuffixOf item.name.toList && !metaDirectory.isPrefixOf item.name.toList

/-- The entry of an item, if it is taken for a class; any item must be one that can be opened. -/
def itemEntry? (a : Archive) (item : Zip.Item) : Except Fault (Option Entry) := do
  a.openItem item
  if isClassItem item then return some ⟨item.name, ← a.itemContent item⟩ else return none

/-- The entries of items. -/
def itemEntries (a : Archive) : List Zip.Item → Except Fault (List Entry)
  | [] => .ok []
  | item :: items => do
    let first ← a.itemEntry? item
    let others ← a.itemEntries items
    return first.toList ++ others

/-- The entries of an input as they are found. -/
def allEntries (a : Archive) (tree : FileTree) : Except Fault (List Entry) :=
  match a.kind tree with
  | .classFile => do return [⟨a.path.fileName?.getD "", ← readFile tree a.path⟩]
  | .directory => a.directoryEntries tree
  | .zip => do a.itemEntries (← a.zipItems tree)

/-- Puts entries in the order of their names. -/
def sortEntries (entries : List Entry) : List Entry :=
  entries.mergeSort fun a b => decide (a.name ≤ b.name)

/-- The classes of an input, without descriptions of modules and packages, in the order of their names. -/
def entries (a : Archive) (tree : FileTree) : Except Fault (List Entry) := do
  let found ← a.allEntries tree
  return sortEntries (found.filter fun entry => isCandidate entry.name)

/-- Why the system does not let the program read a file of an input, if it does not. -/
def readRefusal? (tree : FileTree) (p : Path) : Option Fault :=
  (tree.refusal? (.read p)).map fun error => .unreadable p.text (.file error)

/-- Why the system does not let the program list a directory, if it does not. -/
def listRefusal? (tree : FileTree) (p : Path) : Option Fault :=
  (tree.refusal? (.list p)).map fun error => .unlisted p.text error

/-- Why the system does not let the program read an input: its file, or a directory in it or a class file there. -/
def refusal? (a : Archive) (tree : FileTree) : Option Fault :=
  match a.kind tree, tree.find a.path with
  | .directory, .ok (location, _) =>
    ((tree.directoriesFrom location).findSome? fun names => listRefusal? tree (a.filePath names)).or
      ((((tree.filesBelow location).map Prod.fst).filter isClassFile).findSome? fun names =>
        readRefusal? tree (a.filePath names))
  | .directory, .error _ => none
  | _, _ => readRefusal? tree a.path

/-- The classes of an input as `entries` gives them, unless the system refuses to read a part of it. -/
def list (a : Archive) (tree : FileTree) : Except Fault (List Entry) :=
  match a.refusal? tree with
  | some fault => .error fault
  | none => a.entries tree

/-- What there is to tell after the classes of an input were listed. -/
def listedEvent (a : Archive) (count : Nat) : Log.Event where
  level := .debug
  target := "jstub.archive"
  message := "collected class entries"
  fields := [("path", .text a.path.text), ("count", .count count)]

/-- Where an entry comes from, for the user. -/
def origin (a : Archive) (tree : FileTree) (name : String) : String :=
  match a.kind tree with
  | .classFile => a.path.text
  | .directory => (a.path.join ⟨name⟩).text
  | .zip => a.itemPath name

end Archive

end ClassStub
