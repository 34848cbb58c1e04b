import Bindery.Package.Writer
import Bindery.Publication.Printer

/-! The ledger of reading-order packages: the outgoing publication, to whose reading order each
committed entry is added. -/
namespace Bindery.ReadingOrder

def manifestLocation : String := "manifest.json"

structure Ledger where
  publication : Publication
  sourceLinks : List Link

namespace Ledger

def ofPublication (p : Publication) : Ledger :=
  { publication := { p with readingOrder := [] }, sourceLinks := p.readingOrder }

def linkFor (ledger : Ledger) (draft : Draft) : Link :=
  match ledger.sourceLinks.find? (·.href = draft.path) with
  | some link => link.carriedOver draft.type
  | none => { href := draft.path, type := draft.type }

def commit (draft : Draft) (ledger : Ledger) : Ledger :=
  let p := ledger.publication
  { ledger with
    publication := { p with readingOrder := p.readingOrder ++ [ledger.linkFor draft] } }

def protectionOf (settings : Settings) (m : Mark) : Protection :=
  { scheme := settings.scheme, profile := m.profile, algorithm := m.algorithm }

def mark? (settings : Settings) (m : Mark) (ledger : Ledger) : Option (Result Ledger) :=
  (ledger.publication.link? m.path).map fun _ =>
    .ok { ledger with publication := ledger.publication.protect m.path (protectionOf settings m) }

def document (ledger : Ledger) : LedgerDocument where
  location := manifestLocation
  content := utf8Bytes (ledger.publication.render ++ "\n")
  flushed := false

instance : Bindery.Ledger Ledger where
  commit := commit
  mark? := mark?
  document? ledger := some ledger.document

end Ledger

def writerFor (device : Device) (p : Publication) (settings : Settings) : Writer Ledger :=
  { output := { device }, ledger := .ofPublication p, settings }

end Bindery.ReadingOrder
