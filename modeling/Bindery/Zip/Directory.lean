import Bindery.Zip.Archive
import Bindery.Zip.EndRecord
import Bindery.Zip.ExtraField

/-! Reading archives. The central directory rules: what a local header says counts only for the
place where the packed octets start. The directory is found through the last end record that leads
to a sound one. -/
namespace Bindery.Zip

/-- Where the packed octets of the local header at a position start. -/
def dataStart? (file : Bytes) (position : Nat) : Option Nat := do
  let record ← record? localSignature file position 30
  return position + 30 + fieldAt record 26 2 + fieldAt record 28 2

def orUnsound {α : Type} (reason : String) : Option α → Result α
  | some a => .ok a
  | none => unsound reason

namespace DirectoryPlace

/-- The member of the central header at a position, and the position behind the header. The member
stands before the directory. -/
def memberAt (place : DirectoryPlace) (file : Bytes) (position : Nat) : Result (Member × Nat) := do
  let part (position width : Nat) : Result Bytes :=
    orUnsound "a central header breaks off" (slice? file position width)
  let record ← orUnsound "no central header" (record? centralSignature file position 46)
  let nameAt := position + 46
  let extraAt := nameAt + fieldAt record 28 2
  let commentAt := extraAt + fieldAt record 30 2
  let behind := commentAt + fieldAt record 32 2
  let name ← part nameAt (extraAt - nameAt)
  let extra ← part extraAt (commentAt - extraAt)
  let comment ← part commentAt (behind - commentAt)
  let h ← Header.ofRecord record name extra comment
  let localAt := place.base + h.offset
  let start ← orUnsound "no local header" (dataStart? file localAt)
  if place.start ≤ localAt ∨ place.start < start then unsound "a member behind the directory"
  else return (h.member ((file.drop start).take h.packedSize), behind)

/-- The members of `count` central headers from a position on. Of members with one name the last
one counts, in the place of the first. -/
def members (place : DirectoryPlace) (file : Bytes) :
    (count position : Nat) → Archive → Result Archive
  | 0, _, archive => .ok archive
  | count + 1, position, archive => do
    let (m, position) ← place.memberAt file position
    place.members file count position (archive.put m)

def archive (place : DirectoryPlace) (file : Bytes) : Result Archive :=
  if place.isSound then place.members file place.count place.start []
  else unsound "an end record that does not agree with itself"

end DirectoryPlace

/-- The archive that the first good one of some end records leads to. Else it is the failure of the
last directory that was found, or `fault` if there was none. -/
def Archive.ofEndRecords (file : Bytes) (fault : Error) : (positions : List Nat) → Result Archive
  | [] => .error fault
  | position :: rest =>
    match DirectoryPlace.at? file position with
    | none => ofEndRecords file fault rest
    | some place =>
      match place.archive file with
      | .ok archive => .ok archive
      | .error fault => ofEndRecords file fault rest

def Archive.ofFile (file : Bytes) : Result Archive :=
  Archive.ofEndRecords file (.format (.archive "no end record")) (occurrences endSignature file)

end Bindery.Zip
