import ClassStub.ClassFile.Kind
import ClassStub.Text.Digits

/-!
# Faults of a class file

The reasons for which bytes are not a class file, and their wording.
-/

namespace ClassStub.ClassFile

/-- Why bytes are not a class file. -/
inductive Fault where
  /-- A read asked for more bytes than remain. -/
  | endOfInput
  /-- The class structure ended before the bytes did. -/
  | trailing (count : Nat)
  /-- The file does not start with the class file magic number. -/
  | magic (found : UInt32)
  /-- The file is older than the oldest supported version. -/
  | version (major minor : UInt16)
  /-- A pool index has no constant. -/
  | index (index : UInt16)
  /-- A tag byte announces no kind of constant. -/
  | tag (tag : UInt8)
  /-- A pool index has a constant of another kind. -/
  | kind (index : UInt16) (expected found : Kind)
  /-- A text constant is not modified UTF-8. -/
  | text
  /-- The stored pool count is zero. -/
  | emptyPool
  /-- The second slot of a wide constant lies behind the pool. -/
  | splitConstant
  deriving DecidableEq, Repr

/-- The wording of a fault. -/
def Fault.message : Fault → String
  | endOfInput => "unexpected end of input"
  | trailing count => Text.decimal count ++ " unexpected trailing byte(s) after class structure"
  | magic found => "invalid classfile magic: 0x" ++ Text.hexPadded 8 found.toNat
  | version major minor =>
    "unsupported classfile version " ++ Text.decimal major.toNat ++ "." ++ Text.decimal minor.toNat
  | index i => "invalid constant pool index: " ++ Text.decimal i.toNat
  | tag t => "invalid constant pool tag: " ++ Text.decimal t.toNat
  | kind i expected found =>
    "constant pool type mismatch at index " ++ Text.decimal i.toNat ++ ": expected " ++ expected.label ++
      ", found " ++ found.label
  | text => "invalid modified UTF-8 constant"
  | emptyPool => "constant pool count must be at least 1"
  | splitConstant => "8-byte constant overflows constant pool"

end ClassStub.ClassFile
