import ClassStub.Bytes
import ClassStub.Text.Segment

/-!
# Class entries

A class inside an input is known by its entry name, its path below the root of the input. The entry name says
which class to expect, unless it is the description of a module or package.
-/

namespace ClassStub.Archive

/-- The suffix of class files. -/
def classSuffix : List Char := ".class".toList

/-- The internal name of a class by its entry name: without one leading slash and the suffix. -/
def internalName? (entryName : String) : Option String :=
  let cs := entryName.toList
  (Text.stripEnd? classSuffix ((Text.stripFront? ['/'] cs).getD cs)).map String.ofList

/-- One class of an input. -/
structure Entry where
  name : String
  bytes : Bytes
  deriving DecidableEq, Repr

/-- The entry is a class and not the description of a module or package. -/
def isCandidate (entryName : String) : Bool :=
  match internalName? entryName with
  | some internal =>
    let simple := String.ofList ((Text.rsplit '/' internal.toList).head?.getD internal.toList)
    simple != "module-info" && simple != "package-info"
  | none => false

end ClassStub.Archive
