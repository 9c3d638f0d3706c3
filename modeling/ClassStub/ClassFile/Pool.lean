import ClassStub.ClassFile.Reader
import ClassStub.Text.ModifiedUtf8

/-!
# The constant pool

A class file refers to names through a pool of constants. Slot 0 and the second slot of a wide constant hold
nothing. Text is decoded while the pool is read, so that a bad text is a fault even where nothing refers to it;
references between constants are followed only when a name is looked up.
-/

namespace ClassStub.ClassFile

/-- A constant, as far as names need it. -/
inductive Constant where
  | utf8 (text : String)
  /-- A class, by the index of its name. -/
  | classRef (name : UInt16)
  /-- A constant of another kind, with its payload. -/
  | other (kind : Kind) (payload : Bytes)
  deriving DecidableEq, Repr

namespace Constant

/-- The kind of a constant. -/
def kind : Constant → Kind
  | utf8 _ => .utf8
  | classRef _ => .classRef
  | other k _ => k

/-- Reads the rest of a constant after its tag. -/
def readBody : Kind → Reader Constant
  | .utf8 => do
    let size ← Reader.u2
    let encoded ← Reader.bytes size.toNat
    match Text.ModifiedUtf8.decode encoded with
    | some text => return utf8 text
    | none => throw .text
  | .classRef => do
    let name ← Reader.u2
    return classRef name
  | k => do
    let payload ← Reader.bytes k.payloadSize
    return other k payload

/-- Reads a constant. -/
def read : Reader Constant := do
  let tag ← Reader.u1
  match Kind.ofTag? tag with
  | some k => readBody k
  | none => throw (.tag tag)

end Constant

/-- The slots of a pool; an empty slot has no constant. -/
structure Pool where
  slots : Array (Option Constant)
  deriving Repr

namespace Pool

/-- Reads constants into `free` slots. -/
def readSlots : Nat → Reader (List (Option Constant))
  | 0 => pure []
  | free + 1 => do
    let constant ← Constant.read
    if constant.kind.isWide then
      match free with
      | 0 => throw .splitConstant
      | free + 1 =>
        let others ← readSlots free
        return some constant :: none :: others
    else
      let others ← readSlots free
      return some constant :: others

/-- Reads a pool: its number of slots, and the constants from slot 1 on. -/
def read : Reader Pool := do
  let count ← Reader.u2
  match count.toNat with
  | 0 => throw .emptyPool
  | free + 1 =>
    let slots ← readSlots free
    return ⟨(none :: slots).toArray⟩

/-- The constant in a slot. -/
def get (pool : Pool) (i : UInt16) : Except Fault Constant :=
  match pool.slots[i.toNat]? with
  | some (some constant) => .ok constant
  | _ => .error (.index i)

/-- The text in a slot. -/
def text (pool : Pool) (i : UInt16) : Except Fault String := do
  match ← pool.get i with
  | .utf8 text => return text
  | constant => throw (.kind i .utf8 constant.kind)

/-- The name of the class in a slot. -/
def className (pool : Pool) (i : UInt16) : Except Fault String := do
  match ← pool.get i with
  | .classRef name => pool.text name
  | constant => throw (.kind i .classRef constant.kind)

end Pool

end ClassStub.ClassFile
