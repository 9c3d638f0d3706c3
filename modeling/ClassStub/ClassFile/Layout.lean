import ClassStub.Bytes
import ClassStub.ClassFile.Kind

/-!
# The layout of a class file

A class file before anything in it is resolved: constants with their stored text, pool indices instead of names,
attributes with their content. `Layout.encode` writes its bytes. A layout is `Encodable` when its tables and texts
are short enough for the numbers in front of them.
-/

namespace ClassStub.ClassFile

/-- A constant as it is stored. -/
inductive Item where
  | utf8 (encoded : Bytes)
  | classRef (name : UInt16)
  /-- A constant of another kind, with its payload. -/
  | other (kind : Kind) (payload : Bytes)
  deriving DecidableEq, Repr

/-- An attribute: the index of its name, and its content. -/
structure Attribute where
  name : UInt16
  content : Bytes
  deriving DecidableEq, Repr

/-- A field or method as it is stored. -/
structure StoredMember where
  access : UInt16
  name : UInt16
  descriptor : UInt16
  attributes : List Attribute
  deriving DecidableEq, Repr

/-- A class file as it is stored. -/
structure Layout where
  minorVersion : UInt16
  majorVersion : UInt16
  items : List Item
  access : UInt16
  thisClass : UInt16
  /-- The superclass, 0 for none. -/
  superclass : UInt16
  interfaces : List UInt16
  fields : List StoredMember
  methods : List StoredMember
  attributes : List Attribute
  deriving DecidableEq, Repr

/-- A number of two bytes. -/
def encodeU2 (n : UInt16) : Bytes := Bytes.ofNumber 2 n.toNat

/-- A table: the number of its rows, and the rows. -/
def encodeTable {α : Type} (encodeRow : α → Bytes) (rows : List α) : Bytes :=
  Bytes.ofNumber 2 rows.length ++ rows.flatMap encodeRow

namespace Item

/-- The kind of a stored constant. -/
def kind : Item → Kind
  | utf8 _ => .utf8
  | classRef _ => .classRef
  | other k _ => k

/-- How many slots of the pool a constant takes. -/
def width (item : Item) : Nat := if item.kind.isWide then 2 else 1

/-- How many slots of the pool constants take. -/
def widths : List Item → Nat
  | [] => 0
  | item :: items => item.width + widths items

/-- What follows the tag of a constant. -/
def body : Item → Bytes
  | utf8 encoded => Bytes.ofNumber 2 encoded.length ++ encoded
  | classRef name => encodeU2 name
  | other _ payload => payload

/-- The bytes of a constant. -/
def encode (item : Item) : Bytes := item.kind.tag :: item.body

/-- The constant has the size that its kind asks for. -/
def Encodable : Item → Prop
  | utf8 encoded => encoded.length < 0x10000
  | classRef _ => True
  | other k payload => k ≠ .utf8 ∧ k ≠ .classRef ∧ payload.length = k.payloadSize

end Item

/-- The bytes of an attribute. -/
def Attribute.encode (a : Attribute) : Bytes :=
  encodeU2 a.name ++ Bytes.ofNumber 4 a.content.length ++ a.content

/-- The content of the attribute is short enough. -/
def Attribute.Encodable (a : Attribute) : Prop := a.content.length < 0x100000000

/-- The bytes of a field or method. -/
def StoredMember.encode (m : StoredMember) : Bytes :=
  encodeU2 m.access ++ encodeU2 m.name ++ encodeU2 m.descriptor ++ encodeTable Attribute.encode m.attributes

/-- The attributes fit in their table. -/
def StoredMember.Encodable (m : StoredMember) : Prop :=
  m.attributes.length < 0x10000 ∧ ∀ a ∈ m.attributes, a.Encodable

namespace Layout

/-- The number of slots of the pool, the unused slot 0 included. -/
def slotCount (c : Layout) : Nat := 1 + Item.widths c.items

/-- The bytes of a class file. -/
def encode (c : Layout) : Bytes :=
  Bytes.ofNumber 4 0xCAFEBABE ++ encodeU2 c.minorVersion ++ encodeU2 c.majorVersion ++
    Bytes.ofNumber 2 c.slotCount ++ c.items.flatMap Item.encode ++
    encodeU2 c.access ++ encodeU2 c.thisClass ++ encodeU2 c.superclass ++
    encodeTable encodeU2 c.interfaces ++
    encodeTable StoredMember.encode c.fields ++
    encodeTable StoredMember.encode c.methods ++
    encodeTable Attribute.encode c.attributes

/-- Everything fits in front of which a number stands. -/
def Encodable (c : Layout) : Prop :=
  c.slotCount < 0x10000 ∧ (∀ item ∈ c.items, item.Encodable) ∧
    c.interfaces.length < 0x10000 ∧
    c.fields.length < 0x10000 ∧ (∀ m ∈ c.fields, m.Encodable) ∧
    c.methods.length < 0x10000 ∧ (∀ m ∈ c.methods, m.Encodable) ∧
    c.attributes.length < 0x10000 ∧ (∀ a ∈ c.attributes, a.Encodable)

end Layout

end ClassStub.ClassFile
