import Bindery.Package.Sink
import Bindery.Settings
import Bindery.Zip.Output

/-! Writers of containers: an archive under construction beside a ledger of what is in it. Entries
reach the ledger when they are committed, and the ledger becomes a document of the container when
the writer is closed. A writer that has seen an entry abandoned takes no other entry and writes no
document. -/
namespace Bindery

open Zip (Archive Method Output)

/-- The document that a ledger becomes. -/
structure LedgerDocument where
  location : String
  content : Bytes
  flushed : Bool
deriving DecidableEq, Repr

class Ledger (α : Type) where
  commit : Draft → α → α
  /-- The ledger behind a mark, or why the mark cannot be recorded; none if no entry was committed
  at its path. -/
  mark? : Settings → Mark → α → Option (Result α)
  document? : α → Option LedgerDocument

structure Writer (α : Type) where
  output : Output
  ledger : α
  settings : Settings := {}
  abandoned : Option String := none

namespace Writer

variable {α : Type}

def onOutput {β : Type} (act : Action Output β) : Action (Writer α) β :=
  act.within Writer.output fun w output => { w with output }

def checkIntact : Action (Writer α) Unit := do
  match (← get).abandoned with
  | some path => throw (.sequence (.abandoned path))
  | none => pure ()

def newFile (path type : String) (method : Method) : Action (Writer α) Draft := do
  checkIntact
  onOutput (Output.start path method)
  return { path, type, method }

/-- The writer behind an abandoned draft. The first one is remembered. -/
def abandon (draft : Draft) (w : Writer α) : Writer α :=
  { w with abandoned := w.abandoned <|> some draft.path }

variable [Ledger α]

/-- Passes on what was written, and enters the draft into the ledger if that succeeds. -/
def commit (draft : Draft) : Action (Writer α) Unit := do
  onOutput Output.flush
  modify fun w => { w with ledger := Ledger.commit draft w.ledger }

def unmatched (settings : Settings) (path : String) : Result Unit :=
  match settings.unmatched with
  | .ignore => .ok ()
  | .reject => .error (.sequence (.unmatched path))

def mark (m : Mark) : Action (Writer α) Unit := do
  let w ← get
  match Ledger.mark? w.settings m w.ledger with
  | none => Action.ofResult (unmatched w.settings m.path)
  | some (.error e) => throw e
  | some (.ok ledger) => set { w with ledger }

instance : Sink (Writer α) where
  newFile := newFile
  write bytes := onOutput (Output.write bytes)
  flush := onOutput Output.flush
  commit := commit
  abandon := abandon
  mark := mark

def writeDocument : Action (Writer α) Unit := do
  checkIntact
  match Ledger.document? (← get).ledger with
  | none => pure ()
  | some document =>
    onOutput do
      Output.start document.location .deflated
      Output.write document.content
      if document.flushed then Output.flush

/-- What is left of a writer that was closed. -/
structure Closed where
  outcome : Result Unit
  archive : Option Archive

/-- Writes the document of the ledger and ends the archive. The archive is ended even if the
document could not be written; the failure of the document is then the one that is reported. -/
def close (w : Writer α) : Closed :=
  let (documented, w) := writeDocument.perform w
  let (ended, output) := Output.finish.perform w.output
  { outcome := documented *> ended
    archive := if ended.isOk then output.members? else none }

end Writer
end Bindery
