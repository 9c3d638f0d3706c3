import ClassStub.Zip.Extra
import ClassStub.Zip.Inflate

/-!
# Zip files

The items of a zip file are listed by its directory, and the directory is found from the end of the file: of the
end records that fit, the last one that leads to a directory counts. Bytes in front of the archive and behind it
do not matter. Of items with one name the last counts, in the place of the first.
-/

namespace ClassStub.Zip

/-- An item of a zip file. -/
structure Item where
  name : String
  isEncrypted : Bool
  method : Nat
  isLink : Bool
  checksum : UInt32
  /-- The data as it is stored, none without a local record in front of it. -/
  data : Option Bytes
  deriving DecidableEq, Repr

/-- Where the directory is. -/
structure DirectoryPlace where
  /-- Where the archive starts in the file. -/
  archiveStart : Nat
  /-- Where the directory starts in the file. -/
  start : Nat
  /-- How many items there are. -/
  count : Nat
  /-- The numbers of the end record fit together. -/
  isSound : Bool
  deriving DecidableEq, Repr

/-- The item is a link, by the file mode that systems of the Unix kind store. -/
def CentralRecord.isLink (r : CentralRecord) : Bool :=
  r.system == 3 && (r.attributes / 0x10000) &&& 0xA000 == 0xA000

/-- The number of an encryption method, which says nothing about how the data is compressed. -/
def sealedMethod : Nat := 99

/-- The stored data behind the local record at a position; it may reach less far than its size. -/
def storedData? (file : Bytes) (position size : Nat) : Option Bytes := do
  let length ← readAt? localLength file position
  return (file.drop (position + length)).take size

/-- The item of a record, if its local record is in front of the directory. -/
def readItem? (file : Bytes) (place : DirectoryPlace) (record : CentralRecord) : Option Item := do
  let record ← record.withExtras?
  guard (record.method ≠ sealedMethod ∨ record.isSealed)
  let position := record.offset + place.archiveStart
  guard (position < place.start)
  return { name := record.nameText
           isEncrypted := record.flags.testBit encryptionFlag || record.isSealed
           method := record.method
           isLink := record.isLink
           checksum := record.checksum
           data := storedData? file position record.compressedSize }

/-- Takes so many items. -/
def items (file : Bytes) (place : DirectoryPlace) : Nat → RecordReader (List Item)
  | 0 => return []
  | n + 1 => do
    let item ← StateT.lift (readItem? file place (← CentralRecord.reader))
    let others ← items file place n
    return item :: others

/-- Adds an item; one that has its name gives way. -/
def insertItem (known : List Item) (item : Item) : List Item :=
  if known.any fun old => old.name == item.name then
    known.map fun old => if old.name == item.name then item else old
  else known ++ [item]

/-- The items that a directory lists. -/
def directory? (file : Bytes) (place : DirectoryPlace) : Option (List Item) := do
  guard place.isSound
  let listed ← readAt? (items file place place.count) file place.start
  return listed.foldl insertItem []

/-- The end record leaves numbers to a large one. -/
def EndRecord.isMarked (r : EndRecord) : Bool :=
  r.count == 0xFFFF || r.directoryOffset == wideMark

/-- The archive has one volume. -/
def EndRecord.isSound (r : EndRecord) : Bool := r.disk == r.directoryDisk

/-- The archive has one volume, and the counts and the versions fit. -/
def LargeEndRecord.isSound (r : LargeEndRecord) : Bool :=
  r.toEndRecord.isSound && r.countHere ≤ r.count && r.needed ≤ r.madeBy

/-- The place that a large end record gives, if it agrees with its locator. -/
def largePlace? (file : Bytes) (locator : Locator) (locatorPosition position : Nat) : Option DirectoryPlace := do
  let record ← readAt? LargeEndRecord.reader file position
  guard (record.directoryDisk = locator.disk)
  guard (56 ≤ record.length ∧ position + record.length = locatorPosition)
  guard (record.count * 46 + record.directoryOffset ≤ position)
  let archiveStart := position - locator.offset
  return { archiveStart, start := archiveStart + record.directoryOffset, count := record.count
           isSound := record.isSound }

/-- The place of the directory by the large end record. -/
def placeByLocator? (file : Bytes) (locator : Locator) (locatorPosition : Nat) : Option DirectoryPlace := do
  guard (locator.offset < locatorPosition ∧ locator.diskCount ≤ 1)
  (positions largeEndSignature file locator.offset locatorPosition).findSome?
    (largePlace? file locator locatorPosition)

/-- The place that an end record gives to an archive that starts at a position. -/
def EndRecord.place (record : EndRecord) (archiveStart : Nat) : DirectoryPlace :=
  { archiveStart, start := archiveStart + record.directoryOffset, count := record.countHere
    isSound := record.isSound }

/-- The place of the directory by an end record: the first record of a directory from the stored offset on. -/
def placeByRecord? (file : Bytes) (record : EndRecord) (position : Nat) : Option DirectoryPlace :=
  if record.count = 0 then some (record.place (position - record.directoryOffset))
  else do
    guard (record.directoryOffset < position)
    let start ← (positions centralSignature file record.directoryOffset position).head?
    return record.place (start - record.directoryOffset)

/-- The locator in front of an end record that leaves numbers to a large one. -/
def locator? (file : Bytes) (record : EndRecord) (position : Nat) : Option Locator := do
  guard (record.isMarked ∧ Locator.length ≤ position)
  readAt? Locator.reader file (position - Locator.length)

/-- The place of the directory by the end record at a position. -/
def place? (file : Bytes) (position : Nat) : Option DirectoryPlace := do
  let record ← readAt? EndRecord.reader file position
  match locator? file record position with
  | some locator => placeByLocator? file locator (position - Locator.length)
  | none => placeByRecord? file record position

/-- The items of a zip file, none if it is no zip file. -/
def items? (file : Bytes) : Option (List Item) :=
  (positions endSignature file 0 file.length).reverse.findSome? fun position => do
    directory? file (← place? file position)

/-- Why the data of an item cannot be read. -/
inductive DataFault where
  | checksum
  | stream (fault : StreamFault)
  deriving DecidableEq, Repr

/-- The wording of a fault. -/
def DataFault.message : DataFault → String
  | checksum => "Invalid checksum"
  | stream fault => fault.message

namespace Item

/-- The item is a directory, by its name. -/
def isDirectory (item : Item) : Bool :=
  match item.name.toList.getLast? with
  | some c => c == '/' || c == '\\'
  | none => false

/-- The item is neither a directory nor a link. -/
def isFile (item : Item) : Bool := !item.isDirectory && !item.isLink

/-- The item can be opened: it is not encrypted, has data, and is stored as it is or deflated. -/
def isReadable (item : Item) : Bool :=
  !item.isEncrypted && item.data.isSome && (item.method == 0 || item.method == 8)

/-- The content of an item that can be opened. -/
def content (item : Item) : Except DataFault Bytes := do
  let data := item.data.getD []
  let bytes ← if item.method = 8 then (inflate data).mapError .stream else pure data
  if crc32 bytes = item.checksum then return bytes else throw .checksum

end Item

end ClassStub.Zip
