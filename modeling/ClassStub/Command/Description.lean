import ClassStub.Declaration
import ClassStub.Json

/-!
# Descriptions

A class is described by what its file declares, without the look of source text: as lines for a reader, or as a
JSON object for a tool.
-/

namespace ClassStub

/-- The flags by name. -/
def AccessFlags.toJson (flags : AccessFlags) : Json :=
  .object [
    ("is_public", .bool flags.isPublic),
    ("is_private", .bool flags.isPrivate),
    ("is_protected", .bool flags.isProtected),
    ("is_final", .bool flags.isFinal),
    ("is_static", .bool flags.isStatic),
    ("is_abstract", .bool flags.isAbstract),
    ("is_interface", .bool flags.isInterface),
    ("is_enum", .bool flags.isEnum),
    ("is_synthetic", .bool flags.isSynthetic)]

/-- A field or method as an object. -/
def Member.toJson (m : Member) : Json :=
  .object [("name", .string m.name), ("access", m.access.toJson), ("descriptor", .string m.descriptor)]

namespace Declaration

/-- A class as an object. -/
def toJson (d : Declaration) : Json :=
  .object [
    ("internal_name", .string d.name),
    ("access", d.access.toJson),
    ("super_class", .ofOption d.superclass),
    ("interfaces", .array (d.interfaces.map .string)),
    ("fields", .array (d.fields.map Member.toJson)),
    ("methods", .array (d.methods.map Member.toJson))]

/-- A class as lines. -/
def describe (d : Declaration) : List String :=
  ["class: " ++ d.binaryName,
    "  kind: " ++ d.kind.keyword,
    "  access: " ++ String.intercalate " " d.access.modifiers] ++
  d.superclass.toList.map ("  super: " ++ ·) ++
  d.interfaces.map ("  interface: " ++ ·) ++
  ["fields: " ++ Text.decimal d.fields.length] ++
  d.fields.map (fun f => "  " ++ f.name ++ " " ++ f.descriptor) ++
  ["methods: " ++ Text.decimal d.methods.length] ++
  d.methods.map (fun m => "  " ++ m.name ++ m.descriptor)

end Declaration

end ClassStub
