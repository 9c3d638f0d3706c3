import ClassStub.ClassFile.Pool
import ClassStub.Declaration

/-!
# Parsing a class file

`ClassFile.parse` reads a whole class file into its version and its declaration. References are resolved where
they stand, so the first fault in file order is the one that is reported. Attributes are measured and skipped.
-/

namespace ClassStub

/-- A parsed class file. -/
structure ClassFile where
  minorVersion : UInt16
  majorVersion : UInt16
  declaration : Declaration
  deriving DecidableEq, Repr

namespace ClassFile

/-- The number that starts every class file. -/
def magicNumber : UInt32 := 0xCAFEBABE

/-- The oldest major version that is read; newer ones differ only in what is skipped. -/
def oldestMajor : UInt16 := 45

/-- Skips one attribute: its name, its size and as many bytes. -/
def skipAttribute : Reader Unit := do
  let _ ← Reader.u2
  let size ← Reader.u4
  let _ ← Reader.bytes size.toNat

/-- Skips a table of attributes. -/
def skipAttributes : Reader Unit := do
  let _ ← Reader.counted skipAttribute

/-- Reads a field or method. -/
def readMember (pool : Pool) : Reader Member := do
  let access ← Reader.u2
  let nameIndex ← Reader.u2
  let name ← pool.text nameIndex
  let descriptorIndex ← Reader.u2
  let descriptor ← pool.text descriptorIndex
  skipAttributes
  return { access := ⟨access⟩, name, descriptor }

/-- Reads the name of a class by its pool index. -/
def readClassName (pool : Pool) : Reader String := do
  let i ← Reader.u2
  pool.className i

/-- Reads the name of the superclass; index 0 stands for none. -/
def readSuperclass (pool : Pool) : Reader (Option String) := do
  let i ← Reader.u2
  if i = 0 then return none
  let name ← pool.className i
  return some name

/-- Reads the declaration that follows the pool. -/
def readDeclaration (pool : Pool) : Reader Declaration := do
  let access ← Reader.u2
  let name ← readClassName pool
  let superclass ← readSuperclass pool
  let interfaces ← Reader.counted (readClassName pool)
  let fields ← Reader.counted (readMember pool)
  let methods ← Reader.counted (readMember pool)
  skipAttributes
  return { name, access := ⟨access⟩, superclass, interfaces, fields, methods }

/-- Reads a class file to the end of the input. -/
def read : Reader ClassFile := do
  let magic ← Reader.u4
  if magic ≠ magicNumber then throw (.magic magic)
  let minorVersion ← Reader.u2
  let majorVersion ← Reader.u2
  if majorVersion < oldestMajor then throw (.version majorVersion minorVersion)
  let pool ← Pool.read
  let declaration ← readDeclaration pool
  Reader.finish
  return { minorVersion, majorVersion, declaration }

/-- The class file that bytes hold, or the first fault. -/
def parse (bytes : Bytes) : Except Fault ClassFile :=
  read.run' bytes

end ClassFile

end ClassStub
