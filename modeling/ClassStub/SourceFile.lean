import ClassStub.Path
import ClassStub.Stub

/-!
# Source files

A stub is a source file with a place of its own: a directory for each segment of the package, and a file named
after the class.
-/

namespace ClassStub

/-- A stub as a source file. -/
structure SourceFile where
  /-- The dotted package, empty for the default package. -/
  package : String
  className : String
  text : String
  deriving DecidableEq, Repr

namespace SourceFile

/-- The source file of a class. -/
def ofDeclaration (d : Declaration) (text : String) : SourceFile where
  package := d.packageName?.getD ""
  className := d.simpleName
  text := text

/-- The source file of class bytes. -/
def ofBytes? (bytes : Bytes) : Option SourceFile :=
  match Stub.generate bytes with
  | (some declaration, text) => some (ofDeclaration declaration text)
  | (none, _) => none

/-- The directories of the package, without empty segments. -/
def directories (s : SourceFile) : List String :=
  ((s.package.toList.splitOn '.').filter fun segment => segment ≠ []).map String.ofList

/-- The path of the file below a source root. -/
def relativePath (s : SourceFile) : Path :=
  (s.directories.foldl (fun (path : Path) segment => path.join ⟨segment⟩) ⟨""⟩).join ⟨s.className ++ ".java"⟩

end SourceFile

end ClassStub
