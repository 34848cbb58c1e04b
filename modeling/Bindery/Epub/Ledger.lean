import Bindery.Encryption.Printer
import Bindery.Encryption.Space
import Bindery.Package.Writer

/-! The ledger of EPUB containers: the outgoing encryption manifest, and which entries were
committed. -/
namespace Bindery.Epub

open Encryption (Manifest Record)

structure Ledger where
  records : Manifest
  /-- The committed paths, each with whether its plaintext was deflated; the last one counts. -/
  committed : List (String × Bool) := []

namespace Ledger

def commit (draft : Draft) (ledger : Ledger) : Ledger :=
  { ledger with committed := (draft.path, draft.plaintextDeflated) :: ledger.committed }

/-- The cipher reference of an entry. A name whose first segment holds a colon has none, and an
empty one would be shared by all entries without a path. -/
def reference (path : String) : Result String :=
  match UriPath.escaped? path with
  | some uri => if uri = "" then .error (.format (.badReference path)) else .ok uri
  | none => .error (.format (.badReference path))

/-- The compression descriptor for plaintext of a size; a size of zero says nothing by itself. -/
def compression? (deflated : Bool) (size : UInt64) : Option Encryption.Compression :=
  if deflated then some ⟨Encryption.deflateMethod, size⟩
  else if 0 < size then some ⟨Encryption.plainMethod, size⟩
  else none

def recordFor (settings : Settings) (m : Mark) (deflated : Bool) (uri : String) : Record :=
  let record := (Record.of uri m.algorithm).withRetrieval settings.keyUri settings.keyType
  match compression? deflated m.size with
  | some c => record.withCompression c
  | none => record

def mark? (settings : Settings) (m : Mark) (ledger : Ledger) : Option (Result Ledger) :=
  (ledger.committed.lookup m.path).map fun deflated => do
    let uri ← reference m.path
    return { ledger with records := ledger.records.put (recordFor settings m deflated uri) }

/-- The encryption manifest, unless it has no records. -/
def document? (ledger : Ledger) : Option LedgerDocument :=
  if ledger.records.isEmpty then none
  else some {
    location := Encryption.location
    content := utf8Bytes ledger.records.render
    flushed := true }

instance : Bindery.Ledger Ledger where
  commit := commit
  mark? := mark?
  document? := document?

end Ledger
end Bindery.Epub
