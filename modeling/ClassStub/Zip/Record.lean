import ClassStub.Text.Utf8
import ClassStub.Zip.CodePage

/-!
# Records of a zip file

A zip file is made of records. Each starts with a signature; numbers are stored with the least significant byte
first. `readAt?` reads a record at a position of the file.
-/

namespace ClassStub.Zip

/-- A computation that takes bytes off its input or fails. -/
abbrev RecordReader := StateT Bytes Option

namespace RecordReader

/-- Takes so many bytes. -/
def bytes (n : Nat) : RecordReader Bytes := Bytes.split? n

/-- Takes a number of so many bytes. -/
def number (n : Nat) : RecordReader Nat := do
  return (← bytes n).littleEndian

/-- Takes a signature. -/
def signature (expected : Bytes) : RecordReader Unit := do
  guard ((← bytes expected.length) = expected)

end RecordReader

/-- The first bytes of the records: `PK` and two bytes that tell the kind. -/
def signatureOf (first second : UInt8) : Bytes := [0x50, 0x4B, first, second]

/-- The signature of a record in front of an item's data. -/
def localSignature : Bytes := signatureOf 3 4
/-- The signature of a record of the directory. -/
def centralSignature : Bytes := signatureOf 1 2
/-- The signature of the record behind the directory. -/
def endSignature : Bytes := signatureOf 5 6
/-- The signature of the large record behind the directory. -/
def largeEndSignature : Bytes := signatureOf 6 6
/-- The signature of the record that tells where the large end record is. -/
def locatorSignature : Bytes := signatureOf 6 7

/-- Reads a record at a position. -/
def readAt? {α : Type} (read : RecordReader α) (file : Bytes) (position : Nat) : Option α :=
  (read.run (file.drop position)).map (·.1)

/-- The positions from `position` on at which a signature stands. -/
def positionsFrom (pattern : Bytes) (position : Nat) : Bytes → List Nat
  | [] => []
  | b :: rest =>
    if pattern.isPrefixOf (b :: rest) then position :: positionsFrom pattern (position + 1) rest
    else positionsFrom pattern (position + 1) rest

/-- The positions between two others at which a signature stands, in order. -/
def positions (pattern file : Bytes) (start stop : Nat) : List Nat :=
  positionsFrom pattern start ((file.take stop).drop start)

/-- The record of an item in the directory. -/
structure CentralRecord where
  /-- The system under which the item was made. -/
  system : Nat
  flags : Nat
  method : Nat
  checksum : UInt32
  compressedSize : Nat
  size : Nat
  attributes : Nat
  /-- Where the local record stands. -/
  offset : Nat
  /-- The name as it is stored. -/
  name : Bytes
  nameText : String
  commentText : String
  extra : Bytes
  /-- The item is encrypted in a way that an extra field describes. -/
  isSealed : Bool
  deriving DecidableEq, Repr

/-- The flag of an encrypted item. -/
def encryptionFlag : Nat := 0

/-- The flag of a name and a comment in UTF-8. -/
def utf8Flag : Nat := 11

/-- Stored bytes as text. -/
def storedText (isUtf8 : Bool) (bytes : Bytes) : String :=
  if isUtf8 then Text.Utf8.decodeLossy bytes else codePageText bytes

/-- Reads a record of the directory. -/
def CentralRecord.reader : RecordReader CentralRecord := do
  RecordReader.signature centralSignature
  let madeBy ← RecordReader.number 2
  let _ ← RecordReader.number 2
  let flags ← RecordReader.number 2
  let method ← RecordReader.number 2
  let _ ← RecordReader.number 4
  let checksum ← RecordReader.number 4
  let compressedSize ← RecordReader.number 4
  let size ← RecordReader.number 4
  let nameLength ← RecordReader.number 2
  let extraLength ← RecordReader.number 2
  let commentLength ← RecordReader.number 2
  let _ ← RecordReader.number 4
  let attributes ← RecordReader.number 4
  let offset ← RecordReader.number 4
  let name ← RecordReader.bytes nameLength
  let extra ← RecordReader.bytes extraLength
  let comment ← RecordReader.bytes commentLength
  return { system := madeBy / 256, flags, method, checksum := UInt32.ofNat checksum, compressedSize, size,
           attributes, offset, name, extra, isSealed := false
           nameText := storedText (flags.testBit utf8Flag) name
           commentText := storedText (flags.testBit utf8Flag) comment }

/-- Reads a local record and gives its length. -/
def localLength : RecordReader Nat := do
  RecordReader.signature localSignature
  let _ ← RecordReader.bytes 22
  let nameLength ← RecordReader.number 2
  let extraLength ← RecordReader.number 2
  return 30 + nameLength + extraLength

/-- The record behind the directory. -/
structure EndRecord where
  disk : Nat
  directoryDisk : Nat
  /-- How many items there are in this file. -/
  countHere : Nat
  /-- How many items there are in all. -/
  count : Nat
  /-- Where the directory starts, as seen from the start of the archive. -/
  directoryOffset : Nat
  deriving DecidableEq, Repr

/-- Reads an end record with the comment that belongs to it. -/
def EndRecord.reader : RecordReader EndRecord := do
  RecordReader.signature endSignature
  let disk ← RecordReader.number 2
  let directoryDisk ← RecordReader.number 2
  let countHere ← RecordReader.number 2
  let count ← RecordReader.number 2
  let _ ← RecordReader.number 4
  let directoryOffset ← RecordReader.number 4
  let commentLength ← RecordReader.number 2
  let _ ← RecordReader.bytes commentLength
  return { disk, directoryDisk, countHere, count, directoryOffset }

/-- The record that tells where the large end record is. -/
structure Locator where
  disk : Nat
  offset : Nat
  diskCount : Nat
  deriving DecidableEq, Repr

/-- Reads a locator. -/
def Locator.reader : RecordReader Locator := do
  RecordReader.signature locatorSignature
  let disk ← RecordReader.number 4
  let offset ← RecordReader.number 8
  let diskCount ← RecordReader.number 4
  return { disk, offset, diskCount }

/-- The length of a locator. -/
def Locator.length : Nat := 20

/-- The large record behind the directory. -/
structure LargeEndRecord extends EndRecord where
  /-- The length of the record. -/
  length : Nat
  /-- The version of the program that made the file. -/
  madeBy : Nat
  /-- The version that a program needs to read the file. -/
  needed : Nat
  deriving DecidableEq, Repr

/-- Reads a large end record. -/
def LargeEndRecord.reader : RecordReader LargeEndRecord := do
  RecordReader.signature largeEndSignature
  let length ← RecordReader.number 8
  let madeBy ← RecordReader.number 2
  let needed ← RecordReader.number 2
  let disk ← RecordReader.number 4
  let directoryDisk ← RecordReader.number 4
  let countHere ← RecordReader.number 8
  let count ← RecordReader.number 8
  let _ ← RecordReader.number 8
  let directoryOffset ← RecordReader.number 8
  return { disk, directoryDisk, countHere, count, directoryOffset, length := length + 12, madeBy, needed }

end ClassStub.Zip
