import Bindery.Epub.Package
import Bindery.Proofs.Encryption.RoundTrip
import Bindery.Proofs.Package.Progress
import Bindery.Proofs.Zip.Archive
import Bindery.Proofs.Zip.Stored

/-! Copies of EPUB containers. The records of the source are carried forward whole, so that each
copied resource has the record that it had. -/
namespace Bindery.Epub

open Zip (Archive Entry Member Method Output)

def isPart (name : String) : Bool := name != mimetypeLocation && name != Encryption.location

namespace Package

/-- The media type declaration, as it stands at the start of each destination. -/
def declaration : Member := .ofContent mimetypeLocation .stored (utf8Bytes mimetype)

def recordsIn (archive : Archive) : Result Encryption.Manifest := do
  match archive.entry? Encryption.location with
  | none => .ok []
  | some entry => Encryption.Manifest.readDocument (← archive.contentOf entry)

theorem ofArchive_ok_iff {archive : Archive} {settings : Settings} {p : Package} :
    ofArchive archive settings = .ok p ↔ (archive.entry? containerLocation).isSome = true ∧
      recordsIn archive = .ok p.records ∧ p.archive = archive ∧ p.settings = settings := by
  have form : ofArchive archive settings =
      if (archive.entry? containerLocation).isNone then
        .error (.missing (.container containerLocation))
      else do
        let records ← recordsIn archive
        return { archive, records, settings } := by
    unfold ofArchive recordsIn
    cases archive.entry? Encryption.location with
    | none => rfl
    | some entry => simp only [bind_assoc]
  rw [form]
  cases found : archive.entry? containerLocation with
  | none => simp
  | some entry =>
    cases recorded : recordsIn archive with
    | error e => simp [bind, Except.bind]
    | ok records =>
      constructor
      · intro opened
        cases opened
        exact ⟨rfl, rfl, rfl, rfl⟩
      · rintro ⟨_, same, rfl, rfl⟩
        cases same
        rfl

theorem paths_resources (p : Package) :
    p.resources.map Resource.path =
      ((p.archive.filter Archive.isFile).map Member.name).filter isPart := by
  rw [← Archive.names_index, List.filter_map, resources, List.map_map]
  rfl

theorem part_of_mem {p : Package} {r : Resource} (listed : r ∈ p.resources) :
    isPart r.path = true ∧ Archive.isFile (Writer.copyOf r) = true ∧
      r.isEncrypted = (p.records.recordFor? r.path).isSome := by
  obtain ⟨entry, kept, rfl⟩ := List.mem_map.mp listed
  obtain ⟨indexed, part⟩ := List.mem_filter.mp kept
  obtain ⟨m, _, file, same⟩ := Archive.memberOf_of_mem indexed
  have named : (Writer.copyOf (resourceOf p entry)).name = m.name := by
    change entry.name = m.name
    rw [same]
    rfl
  exact ⟨part, (Archive.isFile_congr named).trans file, rfl⟩

theorem sound_of_mem {p : Package} (whole : ∀ m ∈ p.archive, m.IsWhole) :
    ∀ r ∈ p.resources, r.Sound := by
  intro r listed
  obtain ⟨entry, kept, rfl⟩ := List.mem_map.mp listed
  obtain ⟨content, ran, length⟩ := Archive.contentOf_of_mem whole (List.mem_filter.mp kept).1
  refine ⟨{ rest := content, declared := entry.size }, ?_, rfl, ?_⟩
  · simp only [resourceOf, ran]
    rfl
  · simpa using length

theorem status_of_mem {p : Package} {order : List Resource}
    (source : ∀ r ∈ order, r ∈ p.resources) :
    order.map Resource.status =
      (order.map Resource.path).map fun name => (name, (p.records.recordFor? name).isSome) := by
  rw [List.map_map]
  refine List.map_congr_left fun r listed => ?_
  rw [Resource.status, (part_of_mem (source r listed)).2.2]
  rfl

theorem declare_ok {o o' : Output} (declared : declare o = .ok () o') :
    o' = o.opened
      { name := mimetypeLocation, method := .stored, content := utf8Bytes mimetype } := by
  have filled : (do
      Output.start mimetypeLocation .stored
      Output.write (utf8Bytes mimetype)
      if false then Output.flush : Action Output Unit) o = .ok () o' := by
    simpa [declare] using declared
  exact (Output.filled_ok filled).2.2

/-- The destination of a container on a device, with nothing but the declaration in it. -/
def destination (p : Package) (device : Device) : Writer Ledger where
  output := Output.opened { device }
    { name := mimetypeLocation, method := .stored, content := utf8Bytes mimetype }
  ledger := { records := p.records }
  settings := p.settings

theorem newWriter_eq {p : Package} {device : Device} {w : Writer Ledger}
    (started : p.newWriter device = .ok w) : w = p.destination device := by
  unfold newWriter at started
  cases declared : declare ({ device } : Output) with
  | error e o =>
    simp only [Action.perform_of_error declared] at started
    cases started
  | ok _ o =>
    obtain rfl := declare_ok declared
    simp only [Action.perform_of_ok declared] at started
    cases started
    rfl

theorem newWriter_ok {p : Package} {device : Device} {w : Writer Ledger}
    (started : p.newWriter device = .ok w) :
    w.output.settle.slots = [declaration].map .member ∧ w.ledger.records = p.records := by
  obtain rfl := newWriter_eq started
  exact ⟨Output.slots_settle_opened _ _, rfl⟩

theorem newWriter_of_taken (p : Package) {device : Device} (takes : device.refused = none) :
    p.newWriter device = .ok (p.destination device) := by
  have fresh : mimetypeLocation ∉ ({ device } : Output).names := List.not_mem_nil
  have declared : declare ({ device } : Output) = .ok () (Output.opened { device }
      { name := mimetypeLocation, method := .stored, content := utf8Bytes mimetype }) := by
    unfold declare
    rw [Action.bind_of_ok (Output.start_of_taken takes .stored fresh)]
    exact Output.write_of_taken takes _ _
  unfold newWriter
  rw [Action.perform_of_ok declared]
  rfl

theorem destination_willing (p : Package) {device : Device} (takes : device.refused = none)
    (flushes : device.refusesFlush = false) : (p.destination device).Willing :=
  ⟨rfl, takes, flushes⟩

theorem records_committed (drafts : List Draft) (ledger : Ledger) :
    (Writer.committed drafts ledger).records = ledger.records := by
  induction drafts generalizing ledger with
  | nil => rfl
  | cons draft drafts ih => exact ih (ledger.commit draft)

theorem isFile_document (content : Bytes) :
    Archive.isFile (.ofContent Encryption.location .deflated content) = true :=
  Archive.isFile_of_name Encryption.location rfl (by decide)

theorem document?_cases (ledger : Ledger) :
    (ledger.records = [] ∧ ledger.document? = none) ∨
    (ledger.records ≠ [] ∧ ledger.document? =
      some ⟨Encryption.location, utf8Bytes ledger.records.render, true⟩) := by
  unfold Ledger.document?
  cases ledger.records with
  | nil => exact .inl ⟨rfl, rfl⟩
  | cons r rest => exact .inr ⟨List.cons_ne_nil r rest, rfl⟩

theorem location_of_document? {ledger : Ledger} {d : LedgerDocument}
    (given : d ∈ ledger.document?) : d.location = Encryption.location := by
  rcases document?_cases ledger with ⟨_, nothing⟩ | ⟨_, document⟩
  · rw [nothing] at given
    cases given
  · rw [document] at given
    cases given
    rfl

/-- An archive with the document of some records at its end, if there are any, holds these records.
Nothing else may stand at the place of the document. -/
theorem recordsIn_behind {before : Archive} (ledger : Ledger)
    (elsewhere : Encryption.location ∉ before.map Member.name) :
    recordsIn (before ++ (ledger.document?).toList.map LedgerDocument.member) =
      .ok ledger.records := by
  unfold recordsIn
  rcases document?_cases ledger with ⟨empty, nothing⟩ | ⟨_, document⟩
  · have absent : Archive.entry? before Encryption.location = none := by
      rw [← Option.not_isSome_iff_eq_none, Archive.isSome_entry?_iff]
      exact fun here => elsewhere ((List.filter_sublist.map _).subset here)
    rw [nothing, Option.toList_none, List.map_nil, List.append_nil, absent, empty]
  · have file : Archive.isFile (.ofContent Encryption.location .deflated
        (utf8Bytes ledger.records.render)) = true := isFile_document _
    have found := @Archive.entry?_behind before [] _ file elsewhere
    have content := Archive.contentOf_behind before []
      (.ofContent Encryption.location .deflated (utf8Bytes ledger.records.render))
    rw [Zip.Member.content_ofContent] at content
    rw [document, Option.toList_some, List.map_singleton, LedgerDocument.member]
    rw [Zip.name_ofContent] at found
    simp only [found, content, bind, Except.bind, Encryption.readDocument_render]

theorem fresh_of_isPart {name : String} (part : isPart name = true) :
    name ∉ [declaration].map Member.name := by
  intro here
  have first : name = mimetypeLocation := List.mem_singleton.mp here
  rw [first] at part
  exact absurd part (by decide)

theorem location_not_mem {parts : Archive} (named : ∀ m ∈ parts, isPart m.name = true) :
    Encryption.location ∉ ([declaration] ++ parts).map Member.name := by
  intro here
  obtain ⟨m, member, same⟩ := List.mem_map.mp here
  rcases List.mem_append.mp member with first | part
  · obtain rfl := List.mem_singleton.mp first
    exact absurd same (by decide)
  · have kind := named m part
    rw [same] at kind
    exact absurd kind (by decide)

/-- An archive that starts with the declaration and ends with the document of some records, if
there are any, holds these records. -/
theorem recordsIn_of_parts {parts : Archive} (ledger : Ledger)
    (named : ∀ m ∈ parts, isPart m.name = true) :
    recordsIn ([declaration] ++ parts ++ (ledger.document?).toList.map LedgerDocument.member) =
      .ok ledger.records :=
  recordsIn_behind ledger (location_not_mem named)

/-- The parts of such an archive are its files, without the declaration and the document. -/
theorem filter_parts {parts : Archive} (ledger : Ledger)
    (named : ∀ m ∈ parts, isPart m.name = true) (files : ∀ m ∈ parts, Archive.isFile m = true) :
    (([declaration] ++ parts ++ (ledger.document?).toList.map LedgerDocument.member).filter
      Archive.isFile).filter (fun m => isPart m.name) = parts := by
  have first : ([declaration].filter Archive.isFile).filter (fun m => isPart m.name) = [] := rfl
  have between : (parts.filter Archive.isFile).filter (fun m => isPart m.name) = parts := by
    rw [List.filter_eq_self.mpr files]
    exact List.filter_eq_self.mpr named
  have last : (((ledger.document?).toList.map LedgerDocument.member).filter
      Archive.isFile).filter (fun m => isPart m.name) = [] := by
    rcases document?_cases ledger with ⟨_, nothing⟩ | ⟨_, document⟩
    · rw [nothing]
      rfl
    · rw [document]
      simp [LedgerDocument.member, isFile_document, isPart]
  rw [List.filter_append, List.filter_append, List.filter_append, List.filter_append, first,
    between, last, List.nil_append, List.append_nil]

theorem parts_of_names {parts : Archive} (ledger : Ledger)
    (named : ∀ m ∈ parts, isPart m.name = true) (files : ∀ m ∈ parts, Archive.isFile m = true) :
    ((([declaration] ++ parts ++ (ledger.document?).toList.map LedgerDocument.member).filter
      Archive.isFile).map Member.name).filter isPart = parts.map Member.name := by
  rw [List.filter_map]
  exact congrArg (List.map Member.name) (filter_parts ledger named files)

/-- Such an archive is a container with these records, and with its parts as resources, if the
container document is among them. -/
theorem reopened {parts : Archive} (ledger : Ledger) (later : Settings)
    (named : ∀ m ∈ parts, isPart m.name = true) (files : ∀ m ∈ parts, Archive.isFile m = true)
    (contained : containerLocation ∈ parts.map Member.name) :
    ∃ p, ofArchive ([declaration] ++ parts ++
        (ledger.document?).toList.map LedgerDocument.member) later = .ok p ∧
      p.archive = [declaration] ++ parts ++ (ledger.document?).toList.map LedgerDocument.member ∧
      p.records = ledger.records ∧ p.resources.map Resource.path = parts.map Member.name := by
  have names := parts_of_names ledger named files
  refine ⟨{ archive := _, records := ledger.records, settings := later },
    ofArchive_ok_iff.mpr ⟨?_, recordsIn_of_parts ledger named, rfl, rfl⟩, rfl, rfl, ?_⟩
  · rw [← names] at contained
    exact (Archive.isSome_entry?_iff _ _).mpr (List.mem_filter.mp contained).1
  · rw [paths_resources]
    exact names

theorem container_mem_paths {archive : Archive} {settings : Settings} {p : Package}
    (opened : ofArchive archive settings = .ok p) :
    containerLocation ∈ p.resources.map Resource.path := by
  obtain ⟨contained, _, rfl, _⟩ := ofArchive_ok_iff.mp opened
  rw [Archive.isSome_entry?_iff] at contained
  rw [paths_resources]
  exact List.mem_filter.mpr ⟨contained, by decide⟩

theorem part_of_names {p : Package} {parts : Archive}
    (names : ∀ m ∈ parts, m.name ∈ p.resources.map Resource.path) :
    (∀ m ∈ parts, isPart m.name = true) ∧ ∀ m ∈ parts, Archive.isFile m = true := by
  constructor
  · intro m listed
    obtain ⟨r, among, same⟩ := List.mem_map.mp (names m listed)
    rw [← same]
    exact (part_of_mem among).1
  · intro m listed
    obtain ⟨r, among, same⟩ := List.mem_map.mp (names m listed)
    have named : m.name = (Writer.copyOf r).name := same.symm
    exact (Archive.isFile_congr named).trans (part_of_mem among).2.1

/-- Where every resource of a container is copied and the copy is closed, the copy is a container
with the records of its source, and with its resources in the order of their copies, each of them
as it was. -/
theorem copies_keep_records {archive : Archive} {settings : Settings} {p : Package}
    {device : Device} {w : Writer Ledger} {order : List Resource} (later : Settings)
    (opened : ofArchive archive settings = .ok p) (started : p.newWriter device = .ok w)
    (all : w.CopiesAll p.resources order) :
    ∃ copy p', (Writer.close (w.behindCopies order)).archive = some copy ∧
      ofArchive copy later = .ok p' ∧ p'.records = p.records ∧
      p'.resources.map Resource.status = order.map Resource.status := by
  obtain ⟨slots, records⟩ := newWriter_ok started
  obtain ⟨drafts, _, _, left, _⟩ := all.archive slots
  have source : ∀ r ∈ order, r ∈ p.resources := fun r listed => all.whole.subset listed
  have names : (order.map Writer.copyOf).map Member.name = order.map Resource.path := by
    rw [List.map_map]
    rfl
  have among : ∀ m ∈ order.map Writer.copyOf, m.name ∈ p.resources.map Resource.path := by
    intro m listed
    obtain ⟨r, member, rfl⟩ := List.mem_map.mp listed
    exact List.mem_map_of_mem (source r member)
  obtain ⟨named, files⟩ := part_of_names among
  have arrived : containerLocation ∈ (order.map Writer.copyOf).map Member.name := by
    rw [names]
    exact (all.whole.map Resource.path).symm.subset (container_mem_paths opened)
  obtain ⟨p', ofCopy, _, held, paths⟩ :=
    reopened (Writer.committed drafts w.ledger) later named files arrived
  have same : p'.records = p.records := by rw [held, records_committed, records]
  refine ⟨_, p', left, ofCopy, same, ?_⟩
  rw [status_of_mem fun _ => id, paths, names, same, status_of_mem source]

end Package
end Bindery.Epub

namespace Bindery

open Zip (Archive Member)

/-! ## A book with an encrypted page -/

def bookParts : Archive := [
  .ofContent Epub.containerLocation .stored [0x3c],
  .ofContent "a.xhtml" .stored [0x6f, 0x6b],
  .ofContent "b.xhtml" .deflated [0x6f, 0x6b]]

def bookLedger : Epub.Ledger :=
  { records := [.of "a.xhtml" "http://www.w3.org/2001/04/xmlenc#aes256-cbc"] }

def book : Epub.Package where
  archive := [Epub.Package.declaration] ++ bookParts ++
    bookLedger.document?.toList.map LedgerDocument.member
  records := bookLedger.records
  settings := {}

theorem opened_book : Epub.Package.ofArchive book.archive {} = .ok book := by
  have named : ∀ m ∈ bookParts, Epub.isPart m.name = true := by
    have names : bookParts.map Member.name =
        ["META-INF/container.xml", "a.xhtml", "b.xhtml"] := rfl
    have parts : ∀ name ∈ ["META-INF/container.xml", "a.xhtml", "b.xhtml"],
        Epub.isPart name = true := by decide
    exact fun m listed => parts m.name (names ▸ List.mem_map_of_mem listed)
  have contained : (book.archive.entry? Epub.containerLocation).isSome = true := by
    refine (Zip.Archive.isSome_entry?_iff _ _).mpr ?_
    exact List.mem_map_of_mem (List.mem_filter.mpr
      ⟨List.mem_cons_of_mem _ List.mem_cons_self, rfl⟩)
  exact Epub.Package.ofArchive_ok_iff.mpr ⟨contained,
    Epub.Package.recordsIn_of_parts bookLedger named, rfl, rfl⟩

theorem whole_book : ∀ m ∈ book.archive, m.IsWhole := by
  refine List.forall_mem_append.mpr ⟨List.forall_mem_append.mpr ⟨?_, ?_⟩, ?_⟩
  · exact List.forall_mem_singleton.mpr (Zip.isWhole_ofContent _ _ _)
  · simp [bookParts, Zip.isWhole_ofContent]
  · exact List.forall_mem_map.mpr fun d _ => Zip.isWhole_ofContent _ _ _

def bookWriter : Writer Epub.Ledger where
  output := Zip.Output.opened {}
    { name := Epub.mimetypeLocation, method := .stored, content := utf8Bytes Epub.mimetype }
  ledger := bookLedger

theorem paths_book : book.resources.map Resource.path =
    ["META-INF/container.xml", "a.xhtml", "b.xhtml"] := rfl

theorem status_book : book.resources.map Resource.status =
    [("META-INF/container.xml", false), ("a.xhtml", true), ("b.xhtml", false)] := by
  rfl

theorem started_book : book.newWriter {} = .ok bookWriter := rfl

end Bindery
