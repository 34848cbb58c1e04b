import Bindery.Package.Resource
import Bindery.Publication.Reader
import Bindery.ReadingOrder.Ledger

/-! Packages built around one document. -/
namespace Bindery.ReadingOrder

/-- The text of a publication that has no links yet, with a mark where its title is to stand. -/
def template : String :=
  "\x7b\n" ++
  "  \"@context\": [\"https://readium.org/webpub-manifest/context.jsonld\"],\n" ++
  "  \"metadata\": \x7b\"title\": \x7b\x7btitle\x7d\x7d\x7d,\n" ++
  "  \"readingOrder\": []\n" ++
  "\x7d"

def titleMark : String := "\x7b\x7btitle\x7d\x7d"

/-- The template with a title in place of the mark. The title is written as JSON, so that no
character of it can end the text that it stands in. -/
def filled (title : String) : String :=
  spell (replaceAll titleMark.toList (Json.quote title).toList template.toList)

/-- Writes what a stream yields as one entry. The declared size of the stream is not compared with
anything. -/
def embed (document : Source) (path type : String) : Action (Writer Ledger) Unit := do
  let draft ← Sink.newFile path type .deflated
  let (draft, _) ← Sink.guarded draft (Resource.transfer draft document)
  Sink.commit draft

def delivered (closed : Writer.Closed) : Result Zip.Archive := do
  closed.outcome
  match closed.archive with
  | some archive => return archive
  | none => Zip.unsound "an entry has no whole header"

/-- Writes a package whose only linked entry holds what a stream yields. -/
def build (title : String) (document : Source) (path type : String) (device : Device) :
    Result Zip.Archive := do
  let publication ← Publication.read (filled title)
  let (written, writer) := (embed document path type).perform (writerFor device publication {})
  written
  delivered writer.close

def pdfPath : String := "publication.pdf"

def pdfType : String := "application/pdf"

/-- The package around the PDF with the given content; none stands for no file. -/
def buildFromPdf (title : String) (content : Option Bytes) : Result Zip.Archive :=
  match content with
  | none => .error (.stream .noFile)
  | some content =>
    build title { rest := content, declared := content.length } pdfPath pdfType {}

end Bindery.ReadingOrder
