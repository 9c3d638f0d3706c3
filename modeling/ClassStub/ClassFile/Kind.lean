/-!
# Kinds of constants

A constant pool holds constants of seventeen kinds. A kind has a tag byte, a label for messages, and all kinds
but text have a payload of fixed size. Long and double constants take two slots of the pool, the others one.
-/

namespace ClassStub.ClassFile

/-- The kind of a constant. -/
inductive Kind where
  | utf8
  | integer
  | float
  | long
  | double
  | classRef
  | string
  | fieldRef
  | methodRef
  | interfaceMethodRef
  | nameAndType
  | methodHandle
  | methodType
  | dynamic
  | invokeDynamic
  | moduleRef
  | packageRef
  deriving DecidableEq, Repr

namespace Kind

/-- The byte that announces a constant of this kind. -/
def tag : Kind → UInt8
  | utf8 => 1
  | integer => 3
  | float => 4
  | long => 5
  | double => 6
  | classRef => 7
  | string => 8
  | fieldRef => 9
  | methodRef => 10
  | interfaceMethodRef => 11
  | nameAndType => 12
  | methodHandle => 15
  | methodType => 16
  | dynamic => 17
  | invokeDynamic => 18
  | moduleRef => 19
  | packageRef => 20

/-- The kind that a tag byte announces. -/
def ofTag? (t : UInt8) : Option Kind :=
  [utf8, integer, float, long, double, classRef, string, fieldRef, methodRef, interfaceMethodRef,
    nameAndType, methodHandle, methodType, dynamic, invokeDynamic, moduleRef, packageRef].find? fun k => k.tag == t

/-- How messages call the kind. -/
def label : Kind → String
  | utf8 => "Utf8"
  | integer => "Integer"
  | float => "Float"
  | long => "Long"
  | double => "Double"
  | classRef => "Class"
  | string => "String"
  | fieldRef => "Fieldref"
  | methodRef => "Methodref"
  | interfaceMethodRef => "InterfaceMethodref"
  | nameAndType => "NameAndType"
  | methodHandle => "MethodHandle"
  | methodType => "MethodType"
  | dynamic => "Dynamic"
  | invokeDynamic => "InvokeDynamic"
  | moduleRef => "Module"
  | packageRef => "Package"

/-- Size of the payload behind the tag; for text, of the length field in front of it. -/
def payloadSize : Kind → Nat
  | utf8 | classRef | string | methodType | moduleRef | packageRef => 2
  | methodHandle => 3
  | integer | float | fieldRef | methodRef | interfaceMethodRef | nameAndType | dynamic | invokeDynamic => 4
  | long | double => 8

/-- Long and double constants take two slots. -/
def isWide : Kind → Bool
  | long | double => true
  | _ => false

end Kind

end ClassStub.ClassFile
