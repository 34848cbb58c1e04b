import Bindery.Proofs.Package.Progress
import Bindery.Proofs.ReadingOrder.Run
import Bindery.Proofs.ReadingOrder.Writable
import Bindery.Proofs.Zip.Archive
import Bindery.Proofs.Zip.Stored

/-! Copies of reading-order packages. The link of an entry that is written anew is without the
protection that the source had for it, and so is that of a copy. -/
namespace Bindery.ReadingOrder

open Zip (Archive Member)

namespace Package

theorem ofArchive_ok_iff {archive : Archive} {settings : Settings} {p : Package} :
    ofArchive archive settings = .ok p ↔ ∃ entry bytes,
      archive.entry? manifestLocation = some entry ∧ archive.contentOf entry = .ok bytes ∧
      Publication.readBytes bytes = .ok p.publication ∧ p.archive = archive ∧
      p.settings = settings := by
  unfold ofArchive
  constructor
  · intro opened
    split at opened
    · cases opened
    · rename_i entry found
      obtain ⟨bytes, content, rest⟩ := ok_of_bind opened
      obtain ⟨publication, read, rest⟩ := ok_of_bind rest
      cases rest
      exact ⟨entry, bytes, found, content, read, rfl, rfl⟩
  · rintro ⟨entry, bytes, found, content, read, rfl, rfl⟩
    simp only [found, content, read, bind, Except.bind]
    rfl

theorem status_resources (p : Package) :
    p.resources.map Resource.status = p.publication.readingOrder.map Link.status := by
  rw [resources, List.map_map]
  rfl

def Holds (p : Package) (name : String) : Prop :=
  ∃ entry content, p.archive.entry? name = some entry ∧ p.archive.contentOf entry = .ok content ∧
    content.length = entry.size

theorem sound_resourceOf {p : Package} {link : Link} (holds : p.Holds link.href) :
    (p.resourceOf link).Sound := by
  obtain ⟨entry, content, found, ran, length⟩ := holds
  refine ⟨{ rest := content, declared := entry.size }, ?_, rfl, ?_⟩
  · simp only [resourceOf, Archive.entry, found, bind, Except.bind, ran]
    rfl
  · simpa using length

theorem holds_of_whole {p : Package} (whole : ∀ m ∈ p.archive, m.IsWhole) {name : String}
    (present : (p.archive.entry? name).isSome = true) : p.Holds name := by
  obtain ⟨entry, found⟩ := Option.isSome_iff_exists.mp present
  obtain ⟨content, ran, length⟩ := Archive.contentOf_of_mem whole (List.mem_of_find?_eq_some found)
  exact ⟨entry, content, found, ran, length⟩

theorem sound_of_mem {p : Package} (whole : ∀ m ∈ p.archive, m.IsWhole)
    (present : ∀ link ∈ p.publication.readingOrder, (p.archive.entry? link.href).isSome = true) :
    ∀ r ∈ p.resources, r.Sound :=
  List.forall_mem_map.mpr fun link linked =>
    sound_resourceOf (holds_of_whole whole (present link linked))

theorem manifest_behind {before : Archive} (ledger : Ledger)
    (elsewhere : manifestLocation ∉ before.map Member.name) :
    ∃ entry, Archive.entry? (before ++ [ledger.document.member]) manifestLocation = some entry ∧
      Archive.contentOf (before ++ [ledger.document.member]) entry =
        .ok (utf8Bytes (ledger.publication.render ++ "\n")) := by
  have file : Archive.isFile ledger.document.member = true :=
    Archive.isFile_of_name manifestLocation rfl (by decide)
  have found := @Archive.entry?_behind before [] _ file elsewhere
  refine ⟨_, found, ?_⟩
  rw [Archive.contentOf_behind]
  exact Member.content_ofContent _ _ _

/-- A package whose archive ends with the document of a writable ledger is read with the publication
that its numbers make. -/
theorem ofArchive_behind_iff {before : Archive} {ledger : Ledger} {settings : Settings}
    {p : Package} (writable : ledger.Writable)
    (elsewhere : manifestLocation ∉ before.map Member.name) :
    ofArchive (before ++ [ledger.document.member]) settings = .ok p ↔
      ledger.publication.reread? = some p.publication ∧
        p.archive = before ++ [ledger.document.member] ∧ p.settings = settings := by
  obtain ⟨entry, found, content⟩ := manifest_behind ledger elsewhere
  have blank : ∀ c ∈ "\n".toList, Json.isBlank c = true := List.all_eq_true.mp (by decide)
  have read := @Publication.read_render _ writable.normal writable.fits "\n" blank
  rw [← Publication.readBytes_utf8Bytes] at read
  rw [ofArchive_ok_iff]
  constructor
  · rintro ⟨_, _, here, written, reread, same, kept⟩
    cases found.symm.trans here
    cases content.symm.trans written
    rw [read] at reread
    refine ⟨?_, same, kept⟩
    split at reread
    · rename_i q again
      cases reread
      exact again
    · cases reread
  · rintro ⟨again, same, kept⟩
    rw [again] at read
    exact ⟨entry, _, found, content, read, same, kept⟩

/-- What is left where every resource of a package was copied: what the package takes over, the
copies, and the document of a ledger in which each copy is committed, under names that are all
distinct. -/
theorem archive_of_copies {p : Package} {device : Device} {w : Writer Ledger}
    {order : List Resource} (started : p.newWriter device = .ok w)
    (all : w.CopiesAll p.resources order) :
    ∃ (present : Archive) (drafts : List Draft), p.carried.mapM p.takenOver = .ok present ∧
      drafts.map Writer.labelOf = (order.map fun r => (r.path, r.type)) ∧
      (Writer.close (w.behindCopies order)).archive =
        some (present ++ order.map Writer.copyOf ++
          [(Writer.committed drafts (Ledger.ofPublication p.publication)).document.member]) ∧
      ((present ++ order.map Writer.copyOf).map Member.name).Nodup ∧
      manifestLocation ∉ (present ++ order.map Writer.copyOf).map Member.name := by
  obtain ⟨present, taken, rfl⟩ := newWriter_behind started
  have slots : (writerBehind present device p.publication p.settings).output.settle.slots =
      present.map .member := rfl
  obtain ⟨drafts, labels, _, left, distinct, fresh⟩ := all.archive slots
  have apart := distinct (names_of_takenOver taken ▸ p.nodup_carried)
  exact ⟨present, drafts, taken, labels, left, apart, fresh _ rfl⟩

/-- Where every resource of a package is copied and the copy is closed, the copy is a package if the
numbers of its publication can be read again. It has the resources in the order of their copies, and
none of them is protected. -/
theorem copies_drop_protections {archive : Archive} {settings : Settings} {p : Package}
    {device : Device} {w : Writer Ledger} {order : List Resource} (later : Settings)
    (opened : ofArchive archive settings = .ok p) (started : p.newWriter device = .ok w)
    (all : w.CopiesAll p.resources order) :
    ∃ copy, (Writer.close (w.behindCopies order)).archive = some copy ∧
      (p.publication.Rereads → ∃ p', ofArchive copy later = .ok p') ∧
      ∀ p', ofArchive copy later = .ok p' →
        p'.resources.map Resource.status = order.map fun r => (r.path, false) := by
  obtain ⟨_, _, _, _, read, _, _⟩ := ofArchive_ok_iff.mp opened
  obtain ⟨normal, fits⟩ := Publication.of_readBytes read
  obtain ⟨present, drafts, _, labels, left, _, elsewhere⟩ := archive_of_copies started all
  let ledger := Writer.committed drafts (Ledger.ofPublication p.publication)
  have writable : ledger.Writable := (Ledger.writable_ofPublication normal fits).committed drafts
  have reopens (p' : Package) := @ofArchive_behind_iff _ _ later p' writable elsewhere
  refine ⟨_, left, ?_, ?_⟩
  · intro rereads
    obtain ⟨q, again⟩ := ((Ledger.rereads_ofPublication rereads).committed drafts).publication
    exact ⟨{ archive := _, publication := q, settings := later }, (reopens _).mpr ⟨again, rfl, rfl⟩⟩
  · intro p' reopened
    obtain ⟨again, _, _⟩ := (reopens p').mp reopened
    have links : ledger.publication.readingOrder =
        drafts.map (Ledger.ofPublication p.publication).linkFor :=
      congrArg Publication.readingOrder
        (Ledger.publication_committed drafts (Ledger.ofPublication p.publication))
    have plain : (Link.status ∘ (Ledger.ofPublication p.publication).linkFor) =
        fun draft => (draft.path, false) :=
      funext fun draft => Ledger.status_linkFor _ draft
    have along : (drafts.map Writer.labelOf).map (fun label => (label.1, false)) =
        (order.map fun r => (r.path, r.type)).map fun label => (label.1, false) := by rw [labels]
    rw [List.map_map, List.map_map] at along
    rw [status_resources, Publication.map_status_of_reread again, links, List.map_map, plain]
    exact along

end Package
end Bindery.ReadingOrder
