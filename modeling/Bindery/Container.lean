import Bindery.Epub.Package
import Bindery.ReadingOrder.Package

/-! Containers of either kind, told apart by what is in the archive. -/
namespace Bindery

open Zip (Archive)

inductive Container where
  | readingOrder (package : ReadingOrder.Package)
  | epub (package : Epub.Package)

namespace Container

/-- The container in an archive. The publication counts if markers of both kinds are present. -/
def ofArchive (archive : Archive) (settings : Settings) : Result Container :=
  if (archive.member? ReadingOrder.manifestLocation).isSome then
    .readingOrder <$> ReadingOrder.Package.ofArchive archive settings
  else if (archive.member? Epub.containerLocation).isSome then
    .epub <$> Epub.Package.ofArchive archive settings
  else
    .error (.format (.unknownContainer ReadingOrder.manifestLocation Epub.containerLocation))

def archive : Container → Archive
  | readingOrder p => p.archive
  | epub p => p.archive

def resources : Container → List Resource
  | readingOrder p => p.resources
  | epub p => p.resources

end Container
end Bindery
