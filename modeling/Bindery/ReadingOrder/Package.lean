import Bindery.Encryption.Space
import Bindery.Package.Resource
import Bindery.Publication.Reader
import Bindery.ReadingOrder.Ledger

/-! Reading-order packages as sources. The resources of a pass are the links of the reading order;
ancillary resources and standalone manifests travel to each destination in packed form. -/
namespace Bindery.ReadingOrder

open Zip (Archive Entry Output)

structure Package where
  archive : Archive
  publication : Publication
  settings : Settings

namespace Package

def ofArchive (archive : Archive) (settings : Settings) : Result Package := do
  match archive.entry? manifestLocation with
  | none => .error (.missing (.manifest manifestLocation))
  | some entry =>
    let publication ← Publication.readBytes (← archive.contentOf entry)
    return { archive, publication, settings }

def resourceOf (p : Package) (link : Link) : Resource :=
  let entry := p.archive.entry? link.href
  { path := link.href
    type := link.type
    size := (entry.map Entry.size).getD 0
    isEncrypted := link.isProtected
    canEncrypt := true
    compressFirst := false
    method := (entry.map Entry.method).getD .deflated
    source := do
      let entry ← p.archive.entry link.href
      return { rest := ← p.archive.contentOf entry, declared := entry.size } }

def resources (p : Package) : List Resource := p.publication.readingOrder.map p.resourceOf

/-- Where a publication manifest of the other standard stands, if a package has one. -/
def sisterLocation : String := "publication.json"

def standalone : List String := [Encryption.location, sisterLocation]

/-- The entries that each destination takes over, without repetitions: the standalone manifests
that are there, and the ancillary resources, which must be there. -/
def carried (p : Package) : List String :=
  let manifests := standalone.filter fun name => (p.archive.entry? name).isSome
  (manifests ++ p.publication.resources.map Link.href).eraseDups

def carry (p : Package) (name : String) : Action Output Unit := do
  let entry ← Action.ofResult (p.archive.entry name)
  Output.copyMember (← Action.ofResult (p.archive.memberOf entry))

def newWriter (p : Package) (device : Device) : Result (Writer Ledger) := do
  let (outcome, output) := (p.carried.forM p.carry).perform { device }
  outcome
  return { output, ledger := .ofPublication p.publication, settings := p.settings }

end Package
end Bindery.ReadingOrder
