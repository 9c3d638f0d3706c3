import ClassStub.Zip.Crc32
import ClassStub.Zip.Record

/-!
# Extra fields

A record of the directory can carry extra fields, each with a kind and a length. They hold sizes and offsets that
do not fit in four bytes, names and comments in UTF-8, times, and how the item is encrypted.
`CentralRecord.withExtras?` puts in place what they tell. Fields that are cut short are passed over, with all that
follows them; a field that breaks the rules of its kind makes the whole directory bad.
-/

namespace ClassStub.Zip

/-- Why extra fields are not read to their end. -/
inductive ExtraStop where
  /-- The bytes do not reach. -/
  | cut
  /-- A field breaks the rules of its kind. -/
  | bad
  deriving DecidableEq, Repr

/-- A record and the extra fields of it that are still to be read. -/
structure Extras where
  record : CentralRecord
  rest : Bytes

/-- A computation that takes extra fields in; what it has changed stays when it stops. -/
abbrev ExtraReader := ExceptT ExtraStop (StateM Extras)

namespace ExtraReader

/-- Takes so many bytes. -/
def bytes (n : Nat) : ExtraReader Bytes := do
  match Bytes.split? n (← get).rest with
  | some (front, rest) =>
    modify fun extras => { extras with rest }
    return front
  | none => throw .cut

/-- Takes a number of so many bytes. -/
def number (n : Nat) : ExtraReader Nat := do
  return (← bytes n).littleEndian

/-- Fails unless a rule is kept. -/
def require (rule : Bool) : ExtraReader Unit :=
  if rule then pure () else throw .bad

/-- Changes the record. -/
def update (change : CentralRecord → CentralRecord) : ExtraReader Unit :=
  modify fun extras => { extras with record := change extras.record }

end ExtraReader

open ExtraReader

/-- The value of a four-byte number that stands for one given elsewhere. -/
def wideMark : Nat := 0xFFFFFFFF

/--
Takes a wide number if the field is long enough for all of them or the number is marked, and gives the bytes that
were taken.
-/
def wideNumber (length : Nat) (value : CentralRecord → Nat) (change : Nat → CentralRecord → CentralRecord) :
    ExtraReader Nat := do
  if 24 ≤ length || value (← get).record == wideMark then
    update (change (← number 8))
    return 8
  else return 0

/-- Takes the sizes and the offset that do not fit in four bytes. -/
def wideField (length : Nat) : ExtraReader Unit := do
  let first ← wideNumber length (·.size) fun size record => { record with size }
  let second ← wideNumber length (·.compressedSize) fun compressedSize record => { record with compressedSize }
  let third ← wideNumber length (·.offset) fun offset record => { record with offset }
  let taken := first + second + third
  require (taken ≤ length)
  let _ ← bytes (length - taken)

/-- Takes three times with an attribute around them. -/
def timesField (length : Nat) : ExtraReader Unit := do
  require (length = 32)
  let _ ← bytes 4
  require ((← number 2) = 1)
  require ((← number 2) = 24)
  let _ ← bytes 24

/-- Takes flags that tell which times there are, and these times, or else one of them whatever the flags. -/
def stampsField (length : Nat) : ExtraReader Unit := do
  let flags ← number 1
  let count := ((List.range 8).filter flags.testBit).length
  require (length = 5 || length = 1 + 4 * count)
  require (flags < 8)
  let _ ← bytes (length - 1)

/-- Takes the description of an encryption, by its maker, and the compression method under it. -/
def sealField (length : Nat) : ExtraReader Unit := do
  require (length = 7)
  let version ← number 2
  let maker ← number 2
  let strength ← number 1
  let method ← number 2
  require (maker = 0x4541)
  require (version = 1 || version = 2)
  require (1 ≤ strength && strength ≤ 3)
  update fun record => { record with method, isSealed := true }

/-- Takes bytes that stand for others, which they name by their checksum. -/
def substitute (length : Nat) (replaced : CentralRecord → Bytes) : ExtraReader Bytes := do
  let _ ← bytes 1
  let checksum ← number 4
  require (5 ≤ length)
  let content ← bytes (length - 5)
  require ((crc32 (replaced (← get).record)).toNat = checksum)
  return content

/-- The text of bytes in UTF-8. -/
def wellFormed (content : Bytes) : ExtraReader String :=
  match Text.Utf8.decode? content with
  | some text => pure text
  | none => throw .bad

/-- Takes a name in UTF-8. -/
def nameField (length : Nat) : ExtraReader Unit := do
  let name ← substitute length (·.name)
  let nameText ← wellFormed name
  update fun record => { record with name, nameText }

/-- Takes a comment in UTF-8. -/
def commentField (length : Nat) : ExtraReader Unit := do
  let commentText ← wellFormed (← substitute length fun record => Text.Utf8.encode record.commentText)
  update fun record => { record with commentText }

/-- Takes one extra field. -/
def extraField : ExtraReader Unit := do
  let kind ← number 2
  let length ← number 2
  match kind with
  | 0x0001 => wideField length
  | 0x000A => timesField length
  | 0x5455 => stampsField length
  | 0x6375 => commentField length
  | 0x7075 => nameField length
  | 0x9901 => sealField length
  | _ =>
    let _ ← bytes length

/-- Takes extra fields up to the end. Each has four bytes at least, so `fuel` bytes are enough. -/
def extraFields : (fuel : Nat) → ExtraReader Unit
  | 0 => pure ()
  | fuel + 1 => do
    if (← get).rest = [] then pure ()
    else
      extraField
      extraFields fuel

/-- The record with what its extra fields tell. -/
def CentralRecord.withExtras? (record : CentralRecord) : Option CentralRecord :=
  match (extraFields record.extra.length).run ⟨record, record.extra⟩ with
  | (.error .bad, _) => none
  | (_, extras) => some extras.record

end ClassStub.Zip
