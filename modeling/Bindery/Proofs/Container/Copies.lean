import Bindery.Proofs.Epub.Copies
import Bindery.Proofs.ReadingOrder.Copies

/-! What copying does to encryption, in containers of either kind. An EPUB keeps its records apart
from its entries, and they are carried forward whole. A reading-order package keeps them in its
links, and these are made anew for every entry that is written, without them. -/
namespace Bindery

open Zip (Archive Member)

/-- A source of either kind all of whose resources are copied with success, in any order, to a
destination that is closed with success. A copied EPUB opens again with the records of its source,
and each resource is encrypted if it was so before. A copied reading-order package opens again if
the numbers of its manifest can be read again; all resources are there, and none is encrypted. -/
theorem copies_keep_or_drop :
    (∀ (archive : Archive) (settings later : Settings) (p : Epub.Package) (device : Device)
      (w : Writer Epub.Ledger) (order : List Resource),
      Epub.Package.ofArchive archive settings = .ok p → p.newWriter device = .ok w →
      w.CopiesAll p.resources order →
      ∃ copy p', (w.behindCopies order).close.archive = some copy ∧
        Epub.Package.ofArchive copy later = .ok p' ∧ p'.records = p.records ∧
        p'.resources.map Resource.status = order.map Resource.status) ∧
    (∀ (archive : Archive) (settings later : Settings) (p : ReadingOrder.Package) (device : Device)
      (w : Writer ReadingOrder.Ledger) (order : List Resource),
      ReadingOrder.Package.ofArchive archive settings = .ok p → p.newWriter device = .ok w →
      w.CopiesAll p.resources order →
      ∃ copy, (w.behindCopies order).close.archive = some copy ∧
        (p.publication.Rereads → ∃ p', ReadingOrder.Package.ofArchive copy later = .ok p') ∧
        ∀ p', ReadingOrder.Package.ofArchive copy later = .ok p' →
          p'.resources.map Resource.status = order.map fun r => (r.path, false)) := by
  constructor
  · intro archive settings later p device w order opened started all
    exact Epub.Package.copies_keep_records later opened started all
  · intro archive settings later p device w order opened started all
    exact ReadingOrder.Package.copies_drop_protections later opened started all

/-! ## A protected page of a reading-order package -/

def protectedPublication : Publication where
  readingOrder := [{
    href := "a.html"
    type := "text/html"
    properties := some {
      protection := some {
        scheme := "http://readium.org/2014/01/lcp"
        profile := "basic"
        algorithm := "AES-CBC" } } }]

def protectedLedger : ReadingOrder.Ledger :=
  { publication := protectedPublication, sourceLinks := [] }

def protectedPackage : ReadingOrder.Package where
  archive := [.ofContent "a.html" .stored [0x6f, 0x6b]] ++ [protectedLedger.document.member]
  publication := protectedPublication
  settings := {}

theorem opened_protected :
    ReadingOrder.Package.ofArchive protectedPackage.archive {} = .ok protectedPackage := by
  have read : Publication.ofValue protectedPublication.toValue = .ok protectedPublication := rfl
  have writable : protectedLedger.Writable := {
    normal := Publication.normal_of_ofValue read
    fits := Publication.within_of_ofValue read (by decide) (by decide)
    normalSources := by simp [protectedLedger]
    fitSources := by simp [protectedLedger] }
  have elsewhere : ReadingOrder.manifestLocation ∉
      [Member.ofContent "a.html" .stored [0x6f, 0x6b]].map Member.name := by decide
  exact (ReadingOrder.Package.ofArchive_behind_iff writable elsewhere).mpr ⟨rfl, rfl, rfl⟩

/-- Its destination, with nothing in it. -/
def protectedWriter : Writer ReadingOrder.Ledger :=
  ReadingOrder.writerBehind [] {} protectedPublication {}

theorem copiesAll_protected :
    protectedWriter.CopiesAll protectedPackage.resources protectedPackage.resources := by
  have whole : ∀ m ∈ protectedPackage.archive, m.IsWhole :=
    List.forall_mem_cons.mpr ⟨Zip.isWhole_ofContent _ _ _,
      List.forall_mem_singleton.mpr (Zip.isWhole_ofContent _ _ _)⟩
  have present : ∀ link ∈ protectedPackage.publication.readingOrder,
      (protectedPackage.archive.entry? link.href).isSome = true := by
    refine List.forall_mem_singleton.mpr ((Zip.Archive.isSome_entry?_iff _ _).mpr ?_)
    exact List.mem_map_of_mem (List.mem_filter.mpr ⟨List.mem_cons_self, rfl⟩)
  have sound := ReadingOrder.Package.sound_of_mem whole present
  have same : protectedPackage.resources.Perm protectedPackage.resources := List.Perm.refl _
  have willing : protectedWriter.Willing := ⟨rfl, rfl, rfl⟩
  have slots : protectedWriter.output.settle.slots = ([] : Archive).map .member := rfl
  have paths : protectedPackage.resources.map Resource.path = ["a.html"] := rfl
  refine Writer.copiesAll_of_willing same sound ?_ willing slots (fun _ _ => List.not_mem_nil) ?_
  · rw [paths]
    simp
  · intro drafts d given
    cases given
    change ReadingOrder.manifestLocation ∉ ["a.html"]
    decide

theorem protectedPackage_copied :
    ReadingOrder.Package.ofArchive protectedPackage.archive {} = .ok protectedPackage ∧
      protectedPackage.newWriter {} = .ok protectedWriter ∧
      protectedWriter.CopiesAll protectedPackage.resources protectedPackage.resources ∧
      protectedPackage.resources.map Resource.status = [("a.html", true)] ∧
      ∃ copy p', (protectedWriter.behindCopies protectedPackage.resources).close.archive =
          some copy ∧
        ReadingOrder.Package.ofArchive copy {} = .ok p' ∧
        p'.resources.map Resource.status = [("a.html", false)] := by
  obtain ⟨copy, left, reopens, plain⟩ := ReadingOrder.Package.copies_drop_protections {}
    opened_protected (rfl : protectedPackage.newWriter {} = .ok protectedWriter) copiesAll_protected
  obtain ⟨p', reopened⟩ := reopens ⟨protectedPublication, rfl⟩
  exact ⟨opened_protected, rfl, copiesAll_protected, rfl, copy, p', left, reopened,
    plain p' reopened⟩

/-! ## An encrypted page of an EPUB -/

theorem copiesAll_book : bookWriter.CopiesAll book.resources book.resources.reverse := by
  have sound : ∀ r ∈ book.resources.reverse, r.Sound := fun r listed =>
    Epub.Package.sound_of_mem whole_book r (List.mem_reverse.mp listed)
  have willing : bookWriter.Willing := ⟨rfl, rfl, rfl⟩
  have slots : bookWriter.output.settle.slots = [Epub.Package.declaration].map .member := rfl
  have paths : book.resources.reverse.map Resource.path =
      ["b.xhtml", "a.xhtml", "META-INF/container.xml"] := by
    rw [List.map_reverse, paths_book]
    rfl
  refine Writer.copiesAll_of_willing (List.reverse_perm _) sound ?_ willing slots ?_ ?_
  · rw [paths]
    decide
  · intro r listed
    have one : r.path ∈ ["b.xhtml", "a.xhtml", "META-INF/container.xml"] :=
      paths ▸ List.mem_map_of_mem listed
    have apart : ∀ path ∈ ["b.xhtml", "a.xhtml", "META-INF/container.xml"],
        path ∉ ["mimetype"] := by decide
    exact apart r.path one
  · intro drafts d given
    have names : ([Epub.Package.declaration] ++ book.resources.reverse.map Writer.copyOf).map
        Member.name = ["mimetype", "b.xhtml", "a.xhtml", "META-INF/container.xml"] := by
      have copies : (book.resources.reverse.map Writer.copyOf).map Member.name =
          book.resources.reverse.map Resource.path := by
        rw [List.map_map]
        rfl
      rw [List.map_append, copies, paths]
      rfl
    rw [names, Epub.Package.location_of_document? given]
    decide

/-- A book is copied from its end, and its page is still encrypted. The protected page of a package
is copied and no longer protected. -/
theorem copies_keep_or_drop_book :
    (Epub.Package.ofArchive book.archive {} = .ok book ∧ book.newWriter {} = .ok bookWriter ∧
      bookWriter.CopiesAll book.resources book.resources.reverse ∧
      ∃ copy p', (bookWriter.behindCopies book.resources.reverse).close.archive = some copy ∧
        Epub.Package.ofArchive copy {} = .ok p' ∧ p'.records = bookLedger.records ∧
        p'.resources.map Resource.status =
          [("b.xhtml", false), ("a.xhtml", true), ("META-INF/container.xml", false)]) ∧
    (ReadingOrder.Package.ofArchive protectedPackage.archive {} = .ok protectedPackage ∧
      protectedPackage.newWriter {} = .ok protectedWriter ∧
      protectedWriter.CopiesAll protectedPackage.resources protectedPackage.resources ∧
      ∃ copy p', (protectedWriter.behindCopies protectedPackage.resources).close.archive =
          some copy ∧
        ReadingOrder.Package.ofArchive copy {} = .ok p' ∧
        p'.resources.map Resource.status = [("a.html", false)]) := by
  constructor
  · refine ⟨opened_book, started_book, copiesAll_book, ?_⟩
    obtain ⟨copy, p', left, reopened, records, kept⟩ := copies_keep_or_drop.1 book.archive {} {}
      book {} bookWriter book.resources.reverse opened_book started_book copiesAll_book
    refine ⟨copy, p', left, reopened, records, ?_⟩
    rw [kept, List.map_reverse, status_book]
    rfl
  · refine ⟨opened_protected, rfl, copiesAll_protected, ?_⟩
    obtain ⟨copy, left, reopens, plain⟩ := copies_keep_or_drop.2 protectedPackage.archive {} {}
      protectedPackage {} protectedWriter protectedPackage.resources opened_protected rfl
      copiesAll_protected
    obtain ⟨p', reopened⟩ := reopens ⟨protectedPublication, rfl⟩
    exact ⟨copy, p', left, reopened, plain p' reopened⟩

end Bindery
