import ClassStub.Access
import ClassStub.Text.Segment

/-!
# Declarations

A `Declaration` is the API of one class: its name, flags, supertypes, fields and methods. Names are internal
names, with `/` between the segments: the last segment is the simple name, the segments before it are the
package. The binary name is written with `.` for `/`.
-/

namespace ClassStub

/-- Writes `.` for every `/`. -/
def dotted (name : String) : String :=
  String.ofList (Text.replaceChar '/' '.' name.toList)

/-- A field or a method. -/
structure Member where
  access : AccessFlags
  name : String
  /-- The type of a field, or the parameter and return types of a method, as the class file spells them. -/
  descriptor : String
  deriving DecidableEq, Repr

/-- The name of every constructor. -/
def Member.constructorName : String := "<init>"

/-- The name of the static initializer. -/
def Member.initializerName : String := "<clinit>"

/-- The method makes instances. -/
def Member.isConstructor (m : Member) : Bool := m.name == constructorName

/-- The method initializes the class itself. -/
def Member.isInitializer (m : Member) : Bool := m.name == initializerName

/-- The API of one class. -/
structure Declaration where
  name : String
  access : AccessFlags
  superclass : Option String
  interfaces : List String
  fields : List Member
  methods : List Member
  deriving DecidableEq, Repr

namespace Declaration

/-- Class, interface or enum. -/
def kind (d : Declaration) : ClassKind := d.access.kind

/-- The last segment of the name; a nested class keeps its `$`. -/
def simpleName (d : Declaration) : String :=
  String.ofList (Text.lastSegment '/' d.name.toList)

/-- The dotted name of the package, none for the default package. -/
def packageName? (d : Declaration) : Option String :=
  (Text.rsplit? '/' d.name.toList).map fun (package, _) => dotted (String.ofList package)

/-- The dotted name of the class. -/
def binaryName (d : Declaration) : String := dotted d.name

end Declaration

end ClassStub
