import Bindery.Encryption.Reader
import Bindery.Epub.Ledger
import Bindery.MediaType
import Bindery.Package.Resource

/-! EPUB containers as sources. Every file is a resource, except the media type declaration and the
encryption manifest, which each destination gets anew. -/
namespace Bindery.Epub

open Zip (Archive Entry Output)

def mimetypeLocation : String := "mimetype"

def mimetype : String := "application/epub+zip"

def containerLocation : String := "META-INF/container.xml"

structure Package where
  archive : Archive
  records : Encryption.Manifest
  settings : Settings

namespace Package

def ofArchive (archive : Archive) (settings : Settings) : Result Package := do
  if (archive.entry? containerLocation).isNone then
    .error (.missing (.container containerLocation))
  else
    let records ← match archive.entry? Encryption.location with
      | none => .ok []
      | some entry => Encryption.Manifest.readDocument (← archive.contentOf entry)
    return { archive, records, settings }

def isResource (entry : Entry) : Bool :=
  entry.name != mimetypeLocation && entry.name != Encryption.location

/-- Whether an entry of this name may be encrypted. Readers need the files of the container itself
and the package documents in plain form. -/
def mayEncrypt (name : String) : Bool :=
  let cs := name.toList
  !("META-INF/".toList.isPrefixOf cs || ".opf".toList.isSuffixOf cs || ".ncx".toList.isSuffixOf cs)

def resourceOf (p : Package) (entry : Entry) : Resource :=
  let type := MediaType.guess entry.name
  { path := entry.name
    type
    size := entry.size
    isEncrypted := (p.records.recordFor? entry.name).isSome
    canEncrypt := mayEncrypt entry.name
    compressFirst := entry.method = .deflated && !MediaType.isPrecompressed type
    method := entry.method
    source := do
      return { rest := ← p.archive.contentOf entry, declared := entry.size } }

def resources (p : Package) : List Resource := (p.archive.index.filter isResource).map p.resourceOf

/-- Writes the media type declaration, which comes first and is stored as it is. -/
def declare : Action Output Unit := do
  Output.start mimetypeLocation .stored
  Output.write (utf8Bytes mimetype)

/-- Starts a destination on a device. The records of the source are carried forward. -/
def newWriter (p : Package) (device : Device) : Result (Writer Ledger) := do
  let (outcome, output) := declare.perform { device }
  outcome
  return { output, ledger := { records := p.records }, settings := p.settings }

end Package
end Bindery.Epub
