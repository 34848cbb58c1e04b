import Bindery.Zip.Record

/-! The records at the end of an archive file, and the directory that they lead to. An end record
with numbers that do not fit into it has a wide form before it, and a locator between the two. All
places are counted from the start of the archive, before which foreign octets may stand. -/
namespace Bindery.Zip

/-- Where the directory of an archive stands in a file. -/
structure DirectoryPlace where
  base : Nat
  start : Nat
  count : Nat
  isSound : Bool
deriving DecidableEq, Repr

/-- What the record at the end of an archive says. -/
structure EndRecord where
  position : Nat
  disk : Nat
  directoryDisk : Nat
  countHere : Nat
  count : Nat
  directoryOffset : Nat
deriving DecidableEq, Repr

namespace EndRecord

/-- The end record at a position, whose comment must fit into the file. -/
def read? (file : Bytes) (position : Nat) : Option EndRecord := do
  let record ← record? endSignature file position 22
  let _ ← slice? file (position + 22) (fieldAt record 20 2)
  return {
    position
    disk := fieldAt record 4 2
    directoryDisk := fieldAt record 6 2
    countHere := fieldAt record 8 2
    count := fieldAt record 10 2
    directoryOffset := fieldAt record 16 4 }

def mayBeWide (r : EndRecord) : Bool := r.count = 0xFFFF || r.directoryOffset = wideMark

/-- Where the directory starts in the file: at the first central header that stands before the end
record and not before the stated place. -/
def directoryStart? (file : Bytes) (r : EndRecord) : Option Nat :=
  if r.position ≤ r.directoryOffset then none
  else
    let between := (file.take r.position).drop r.directoryOffset
    (occurrences centralSignature between).getLast?.map (r.directoryOffset + ·)

def place? (file : Bytes) (r : EndRecord) : Option DirectoryPlace := do
  let base ←
    if r.count = 0 then some (r.position - r.directoryOffset)
    else (r.directoryStart? file).map (· - r.directoryOffset)
  return {
    base
    start := base + r.directoryOffset
    count := r.countHere
    isSound := r.disk = r.directoryDisk }

end EndRecord

/-- What the record before an end record says of the wide form. -/
structure Locator where
  position : Nat
  directoryDisk : Nat
  offset : Nat
  disks : Nat
deriving DecidableEq, Repr

namespace Locator

def width : Nat := 20

def before? (file : Bytes) (position : Nat) : Option Locator := do
  if position < width then none
  else
    let position := position - width
    let record ← record? locatorSignature file position width
    return {
      position
      directoryDisk := fieldAt record 4 4
      offset := fieldAt record 8 8
      disks := fieldAt record 16 4 }

/-- The directory that the wide form at a position leads to. The wide form fills the room up to its
locator, and the headers of the directory stand before it. -/
def placeAt? (file : Bytes) (l : Locator) (position : Nat) : Option DirectoryPlace := do
  let record ← record? wideEndSignature file position 56
  let room := l.position - position
  let disk := fieldAt record 16 4
  let directoryDisk := fieldAt record 20 4
  let count := fieldAt record 32 8
  let directoryOffset := fieldAt record 48 8
  if room < 56 ∨ fieldAt record 4 8 + 12 ≠ room ∨ directoryDisk ≠ l.directoryDisk ∨
      position < 46 * count + directoryOffset then none
  else
    let base := position - l.offset
    return {
      base
      start := base + directoryOffset
      count
      isSound := disk = directoryDisk && fieldAt record 24 8 ≤ count &&
        fieldAt record 14 2 ≤ fieldAt record 12 2 }

/-- The directory that a locator leads to, through the first wide form not before the stated place
that is in order. -/
def place? (file : Bytes) (l : Locator) : Option DirectoryPlace :=
  if l.position ≤ l.offset ∨ 1 < l.disks then none
  else
    let between := (file.take l.position).drop l.offset
    (occurrences wideEndSignature between).reverse.findSome? fun distance =>
      l.placeAt? file (l.offset + distance)

end Locator

def DirectoryPlace.at? (file : Bytes) (position : Nat) : Option DirectoryPlace := do
  let r ← EndRecord.read? file position
  match if r.mayBeWide then Locator.before? file position else none with
  | some locator => locator.place? file
  | none => r.place? file

end Bindery.Zip
