import ClassStub.Bytes
import ClassStub.ClassFile.Fault

/-!
# Reading bytes in order

A `Reader` takes bytes off the front of its input or fails with a fault. Every reader of this module either
gets all the bytes that it asks for, or fails with `Fault.endOfInput`; numbers are stored with the most
significant byte first. `Reader.bytes` is the only place where bytes are taken off.
-/

namespace ClassStub.ClassFile

/-- A computation that takes bytes off its input or fails. -/
abbrev Reader := StateT Bytes (Except Fault)

namespace Reader

/-- Takes `n` bytes. -/
def bytes (n : Nat) : Reader Bytes := fun input =>
  match Bytes.split? n input with
  | some taken => .ok taken
  | none => .error .endOfInput

/-- Takes one byte. -/
def u1 : Reader UInt8 := do
  return UInt8.ofNat (← bytes 1).bigEndian

/-- Takes a number of two bytes. -/
def u2 : Reader UInt16 := do
  return UInt16.ofNat (← bytes 2).bigEndian

/-- Takes a number of four bytes. -/
def u4 : Reader UInt32 := do
  return UInt32.ofNat (← bytes 4).bigEndian

/-- Runs a reader `n` times and lists the results. -/
def times {α : Type} (read : Reader α) : Nat → Reader (List α)
  | 0 => pure []
  | n + 1 => do
    let first ← read
    let others ← times read n
    return first :: others

/-- Runs a reader as often as a stored two-byte count says. -/
def counted {α : Type} (read : Reader α) : Reader (List α) := do
  let count ← u2
  read.times count.toNat

/-- Succeeds only at the end of the input. -/
def finish : Reader Unit := fun input =>
  match input with
  | [] => .ok ((), [])
  | rest => .error (.trailing rest.length)

end Reader

end ClassStub.ClassFile
