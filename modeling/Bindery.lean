import Bindery.Container
import Bindery.Encryption.Stream
import Bindery.Package.Step
import Bindery.Proofs.Text.Numeral
import Bindery.Proofs.Xml.Event
import Bindery.ReadingOrder.Builder
import Bindery.Xml.Escape
import Bindery.Zip.File
import Bindery.Proofs.Encryption.Scope
import Bindery.Proofs.Encryption.Outline
import Bindery.Proofs.Encryption.RoundTrip
import Bindery.Proofs.Action
import Bindery.Proofs.Zip.Output
import Bindery.Proofs.Package.Entry
import Bindery.Proofs.Package.Close
import Bindery.Proofs.ReadingOrder.Agreement
import Bindery.Proofs.ReadingOrder.Meaning
import Bindery.Proofs.Package.Run
import Bindery.Proofs.Zip.Archive
import Bindery.Proofs.Encryption.Lookup
import Bindery.Proofs.Epub.Copies
import Bindery.Proofs.Epub.Mark
import Bindery.Proofs.Epub.Interference
import Bindery.Proofs.Epub.Pass
import Bindery.Proofs.UriPath
import Bindery.Proofs.UriPath.Parts
import Bindery.Proofs.UriPath.Escaping
import Bindery.Proofs.UriPath.Again
import Bindery.Proofs.Epub.Reference
import Bindery.Proofs.Epub.Targetless
import Bindery.Proofs.Epub.Run
import Bindery.Proofs.Encryption.Truncation
import Bindery.Proofs.Xml.Cut
import Bindery.Proofs.Json.Number
import Bindery.Proofs.Json.RoundTrip
import Bindery.Proofs.Publication.Reread
import Bindery.Proofs.ReadingOrder.Copies
import Bindery.Proofs.Package.Progress
import Bindery.Proofs.Container.Copies
import Bindery.Proofs.Json.Canonical
import Bindery.Proofs.Json.Depth
import Bindery.Proofs.Publication.Survival
import Bindery.Proofs.Xml.Tree
import Bindery.Proofs.Encryption.Nesting
import Bindery.Proofs.Json.Integer
import Bindery.Proofs.Json.Member
import Bindery.Proofs.Json.Whole
import Bindery.Proofs.Publication.Whole
import Bindery.Proofs.Publication.Edit
import Bindery.Proofs.ReadingOrder.Identity
import Bindery.Proofs.ReadingOrder.Repackage
import Bindery.Proofs.ReadingOrder.Retrieval
import Bindery.Proofs.ReadingOrder.Seeding
import Bindery.Proofs.ReadingOrder.Reseeding
import Bindery.Proofs.Package.Abandon
import Bindery.Proofs.Encryption.Skipping
import Bindery.Proofs.Package.Copying
import Bindery.Proofs.Epub.Marking
import Bindery.Proofs.Encryption.Comments
import Bindery.Proofs.Encryption.Prefixes
import Bindery.Proofs.Charset.Declaration
import Bindery.Proofs.Encryption.Attributes
import Bindery.Proofs.ReadingOrder.Building
import Bindery.Proofs.Charset.Offsets
import Bindery.Proofs.ReadingOrder.Carrying
import Bindery.Proofs.Package.Reading
import Bindery.Proofs.Epub.Documents
import Bindery.Proofs.Xml.Escaping
import Bindery.Proofs.Zip.Index
import Bindery.Proofs.Publication.Refusal
import Bindery.Proofs.Container.Kinds
import Bindery.Proofs.Settings
import Bindery.Proofs.Encryption.Layout
import Bindery.Proofs.Encryption.KeySize
import Bindery.Proofs.Zip.File
import Bindery.Proofs.Container.Files
