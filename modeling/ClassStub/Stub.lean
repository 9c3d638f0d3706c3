import ClassStub.ClassFile.Parse
import ClassStub.Descriptor.Signature
import ClassStub.Log.Event

/-!
# Stubs

A stub is Java source that declares the API of a class and does nothing: a package line, a header, a line for
each field, a line with an empty body for each method, and a closing brace. An enum lists its constants instead
of its fields and leaves out its supertypes and constructors. Static initializers are never shown, and a method
whose descriptor has no signature is left out; `malformed` lists those.
-/

namespace ClassStub

namespace Declaration

/-- The package line, empty for the default package. -/
def packageLine (d : Declaration) : String :=
  match d.packageName? with
  | some package => "package " ++ package ++ ";\n"
  | none => ""

/-- The superclass, which only an ordinary class shows. -/
def superclassClause (d : Declaration) : String :=
  match d.kind, d.superclass with
  | .ordinary, some name => " extends " ++ dotted name
  | _, _ => ""

/-- The interfaces, which an enum does not show. -/
def interfacesClause (d : Declaration) : String :=
  let names := String.intercalate "," (d.interfaces.map dotted)
  if d.interfaces.isEmpty then ""
  else
    match d.kind with
    | .ordinary => " implements " ++ names
    | .interface => " extends " ++ names
    | .enumeration => ""

/-- The line that opens the class. -/
def header (d : Declaration) : String :=
  String.intercalate " " (d.access.modifiers ++ [d.kind.keyword, d.simpleName]) ++
    d.superclassClause ++ d.interfacesClause ++ "\x7b\n"

end Declaration

/-- The line of a field. -/
def Member.fieldLine (m : Member) : String :=
  let type := (JavaType.read m.descriptor.toList).1
  String.intercalate " " (m.access.fieldModifiers ++ [type.display, m.name]) ++ ";\n"

/-- The parameters of a method: each has a name after its position, and void ones are left out. -/
def Signature.paramList (s : Signature) : String :=
  String.intercalate "," <|
    s.params.zipIdx.filterMap fun (type, i) =>
      if type.isVoid then none else some (type.display ++ " a" ++ Text.decimal i)

/-- The line of a method in a class of a given simple name. -/
def Member.methodLine? (className : String) (m : Member) : Option String :=
  (Signature.ofDescriptor? m.descriptor).map fun signature =>
    let words := if m.isConstructor then [className] else [signature.result.display, m.name]
    String.intercalate " " (m.access.modifiers ++ words) ++ "(" ++ signature.paramList ++ ")\x7b\x7d\n"

namespace Declaration

/-- A stub shows the method if it has a signature. -/
def shows (d : Declaration) (m : Member) : Bool :=
  !m.isInitializer && !(d.kind == .enumeration && m.isConstructor)

/-- The line that lists the constants of an enum. -/
def constantsLine (d : Declaration) : String :=
  String.intercalate ", " ((d.fields.filter fun f => f.access.isEnum).map Member.name) ++ ";\n"

/-- The part of a stub between the header and the methods. -/
def fieldSection (d : Declaration) : String :=
  match d.kind with
  | .enumeration => d.constantsLine
  | .ordinary | .interface => String.join (d.fields.map Member.fieldLine)

/-- The lines of the methods. -/
def methodSection (d : Declaration) : String :=
  String.join ((d.methods.filter d.shows).filterMap (Member.methodLine? d.simpleName))

/-- The stub of a class. -/
def render (d : Declaration) : String :=
  d.packageLine ++ d.header ++ d.fieldSection ++ d.methodSection ++ "\x7d"

/-- The methods that the stub leaves out because their descriptor has no signature. -/
def malformed (d : Declaration) : List Member :=
  d.methods.filter fun m => d.shows m && (Signature.ofDescriptor? m.descriptor).isNone

/-- What there is to tell about rendering a class. -/
def renderEvents (d : Declaration) : List Log.Event :=
  d.malformed.map fun m => {
    level := .trace
    target := "jstub.classfile"
    message := "skipping method with malformed descriptor"
    fields := [("class", .text d.name), ("method", .text m.name), ("descriptor", .text m.descriptor)] }

end Declaration

namespace Stub

/-- The declaration in class bytes with its stub, or why there is none. -/
def ofBytes (bytes : Bytes) : Except ClassFile.Fault (Declaration × String) := do
  let file ← ClassFile.parse bytes
  return (file.declaration, file.declaration.render)

/-- The declaration and stub of class bytes; bytes that are no class have no declaration and an empty stub. -/
def generate (bytes : Bytes) : Option Declaration × String :=
  match ofBytes bytes with
  | .ok (declaration, text) => (some declaration, text)
  | .error _ => (none, "")

/-- What there is to tell about class bytes that may be no class. -/
def generateEvents (bytes : Bytes) : List Log.Event :=
  match ofBytes bytes with
  | .ok (declaration, _) => declaration.renderEvents
  | .error fault => [{
      level := .debug
      target := "jstub.classfile"
      message := "failed to parse classfile; no stub generated"
      fields := [("error", .text fault.message), ("len", .count bytes.length)] }]

end Stub

end ClassStub
