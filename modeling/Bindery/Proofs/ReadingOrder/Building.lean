import Bindery.Proofs.Json.RoundTrip
import Bindery.Proofs.Package.Progress
import Bindery.Proofs.ReadingOrder.Retrieval
import Bindery.Proofs.Text.Search
import Bindery.Proofs.Text.Utf8
import Bindery.ReadingOrder.Builder

/-! Packages built around one document. A title passes through text twice: it is put into a template
that is read, and it is written again when the package is closed. Wherever it stands, what is
written for it is one string, and the template is not searched again behind it. -/
namespace Bindery.ReadingOrder

open Json (ScansTo Value)
open Zip (Archive Entry Member Output)

/-! ## The template -/

def contextAddress : String := "https://readium.org/webpub-manifest/context.jsonld"

def skeleton (title : String) : Publication where
  context := some (.array [.string contextAddress])
  metadata := { title := some (.plain title) }

def beforeMark : String :=
  "\x7b\n  \"@context\": [" ++ (Json.quote contextAddress ++ "],\n  \"metadata\": \x7b\"title\": ")

def behindMark : String := "\x7d,\n  \"readingOrder\": []\n\x7d"

theorem template_parts : template = beforeMark ++ (titleMark ++ behindMark) := by decide

theorem filled_parts (title : String) :
    filled title = beforeMark ++ (Json.quote title ++ behindMark) := by
  have whole : Borderless titleMark.toList := by decide
  have some : titleMark.toList ≠ [] := by decide
  have before : ¬ titleMark.toList <:+: beforeMark.toList := by decide +kernel
  have behind : cut? titleMark.toList behindMark.toList = none := rfl
  have found : cut? titleMark.toList template.toList =
      .some (beforeMark.toList, behindMark.toList) := by
    refine (cut?_eq_some_iff whole some).mpr ⟨?_, before⟩
    rw [template_parts, String.toList_append, String.toList_append]
  rw [filled, replaceAll_of_cut? some found, replaceAll_of_absent some behind, spell_append,
    spell_append]
  simp only [spell, String.ofList_toList]

theorem scansTo_filled (title : String) :
    ScansTo (filled title) (skeleton title).toValue.tokens := by
  have begun : ScansTo "\x7b\n  \"@context\": ["
      [.mark '\x7b', .leaf (.string "@context"), .mark ':', .mark '['] := fun _ _ => rfl
  have between : ScansTo "],\n  \"metadata\": \x7b\"title\": "
      [.mark ']', .mark ',', .leaf (.string "metadata"), .mark ':', .mark '\x7b',
        .leaf (.string "title"), .mark ':'] := fun _ _ => rfl
  have ended : ScansTo behindMark
      [.mark '\x7d', .mark ',', .leaf (.string "readingOrder"), .mark ':', .mark '[', .mark ']',
        .mark '\x7d'] := fun _ _ => rfl
  rw [filled_parts]
  exact (begun.append ((Json.scansTo_quote contextAddress).append between)).append
    ((Json.scansTo_quote title).append ended)

theorem sound_skeleton (title : String) : (skeleton title).Sound := by
  have read : Publication.ofValue (skeleton title).toValue = .ok (skeleton title) := rfl
  have depth : (skeleton title).toValue.depth = 2 := rfl
  have shallow : (skeleton title).toValue.depth ≤ Json.depthLimit := by
    rw [depth]
    decide
  refine ⟨Publication.normal_of_ofValue read,
    Publication.within_of_ofValue read (by decide) shallow, ?_, ?_, nofun, nofun, trivial⟩
  · intro v given
    cases given
    exact ⟨trivial, trivial⟩
  · exact (Metadata.isWhole_toValue_iff _).mpr trivial

theorem read_filled (title : String) : Publication.read (filled title) = .ok (skeleton title) := by
  have shallow : (skeleton title).toValue.depth ≤ Json.depthLimit :=
    (sound_skeleton title).fits.depth
  rw [Publication.read_of_value ((scansTo_filled title).read? shallow)]
  exact Publication.ofValue_toValue (sound_skeleton title).normal

/-! ## The entry -/

theorem entered_embed (w : Writer Ledger) (document : Source) (path type : String) :
    w.Entered path type .deflated document.rest ((embed document path type).perform w).1
      ((embed document path type).perform w).2 := by
  have enters : w.Enters path type .deflated document.rest Eq (embed document path type) w := by
    refine Writer.enters_of_newFile (fun _ => rfl) fun fresh => ?_
    refine Writer.enters_of_writes (fun _ => rfl) (Writer.writes_transfer _ document ⟨rfl, rfl⟩)
      fun moved isDraft => ?_
    exact ⟨_, Writer.entered_commit fresh isDraft, rfl⟩
  obtain ⟨outcome, entered, same⟩ := enters
  rwa [same]

theorem whole_of_embed {w : Writer Ledger} {document : Source} {path type : String}
    (written : ((embed document path type).perform w).1 = .ok ()) : document.fault = none := by
  obtain ⟨_, ran⟩ := Action.ok_of_perform written
  obtain ⟨draft, opened, _, filled⟩ := Action.bind_ok ran
  obtain ⟨_, _, guarded, _⟩ := Action.bind_ok filled
  have moved := Action.ok_of_onFault guarded
  rw [Writer.transfer_eq] at moved
  obtain ⟨_, _, _, rest⟩ := Action.bind_ok moved
  obtain ⟨_, _, sound, _⟩ := Action.bind_ok rest
  obtain ⟨_, ends⟩ := Action.eq_of_ofResult sound
  unfold Writer.ending at ends
  cases fault : document.fault with
  | none => rfl
  | some fault =>
    rw [fault] at ends
    cases ends

theorem embed_of_willing {w : Writer Ledger} (willing : w.Willing) {document : Source}
    (whole : document.fault = none) {path : String} (type : String)
    (fresh : path ∉ w.output.names) :
    ((embed document path type).perform w).1 = .ok () ∧
      ((embed document path type).perform w).2.Willing := by
  let opened : Draft := { path, type, method := .deflated }
  obtain ⟨draft, transferred⟩ : ∃ draft,
      Resource.transfer opened document (w.writing path .deflated []) =
        .ok (draft, Writer.exhausted document) (w.writing path .deflated document.rest) :=
    Writer.transfer_of_willing willing whole { name := path, method := .deflated } opened
  have filled : Sink.guarded opened _ _ = .ok _ _ := Action.onFault_of_ok transferred
  have later : (w.writing path .deflated document.rest).Willing := willing.opened _ w.ledger
  unfold embed
  rw [Action.perform_bind_of_ok (Writer.newFile_of_willing willing type .deflated fresh),
    Action.perform_bind_of_ok filled, Action.perform_of_ok (Writer.commit_of_willing later _)]
  exact ⟨rfl, willing.opened _ _⟩

/-! ## The package -/

def builtLedger (title path type : String) : Ledger where
  publication := { skeleton title with readingOrder := [{ href := path, type }] }
  sourceLinks := []

def builtArchive (title : String) (document : Source) (path type : String) : Archive :=
  [.ofContent path .deflated document.rest, (builtLedger title path type).document.member]

theorem embed_ok {title path type : String} {document : Source} {device : Device}
    {w : Writer Ledger}
    (ran : (embed document path type).perform (writerFor device (skeleton title) {}) =
      (.ok (), w)) :
    w.Doomed ∨ w.ledger = builtLedger title path type ∧ w.output.settle.slots =
      ([.ofContent path .deflated document.rest] : Archive).map .member := by
  have entered := entered_embed (writerFor device (skeleton title) {}) document path type
  have slots : (writerFor device (skeleton title) {}).output.settle.slots =
      ([] : Archive).map .member := rfl
  rw [ran] at entered
  rcases entered.ok slots with doomed | ⟨draft, label, _, added, ledger, _⟩
  · exact .inl doomed
  · obtain ⟨rfl, rfl⟩ := Prod.mk.inj label
    exact .inr ⟨ledger, added⟩

theorem build_eq {title path type : String} {document : Source} {device : Device}
    {outcome : Result Unit} {w : Writer Ledger}
    (ran : (embed document path type).perform (writerFor device (skeleton title) {}) =
      (outcome, w)) :
    build title document path type device = (do
      outcome
      delivered w.close) := by
  unfold build
  rw [bind_of_eq_ok (read_filled title), ran]

/-- A package is built around a whole document only, and not in the place of the manifest; what is
left is known by title, document, path and type. -/
theorem build_ok {title path type : String} {document : Source} {device : Device}
    {archive : Archive} (built : build title document path type device = .ok archive) :
    document.fault = none ∧ path ≠ manifestLocation ∧
      archive = builtArchive title document path type := by
  obtain ⟨outcome, w, ran⟩ : ∃ outcome w,
      (embed document path type).perform (writerFor device (skeleton title) {}) = (outcome, w) :=
    ⟨_, _, rfl⟩
  rw [build_eq ran] at built
  obtain ⟨_, written, built⟩ := ok_of_bind built
  obtain ⟨_, closed, left⟩ := ok_of_bind built
  rw [written] at ran
  rcases embed_ok ran with doomed | ⟨ledger, slots⟩
  · exact absurd closed (Writer.not_closed_of_doomed doomed)
  · obtain ⟨whole, apart⟩ := Writer.archive_of_close slots closed
    rw [ledger] at whole apart
    rw [whole] at left
    cases left
    have elsewhere := (apart _ rfl).1
    refine ⟨whole_of_embed (congrArg Prod.fst ran), ?_, rfl⟩
    rintro rfl
    exact elsewhere List.mem_cons_self

/-- On a device that refuses nothing a package is built around every document that does not break
off, unless the document takes the place of the manifest. -/
theorem build_of_taken (title : String) {document : Source} (whole : document.fault = none)
    {path : String} (type : String) (elsewhere : path ≠ manifestLocation) {device : Device}
    (takes : device.refused = none) (flushes : device.refusesFlush = false) :
    build title document path type device = .ok (builtArchive title document path type) := by
  have willing : (writerFor device (skeleton title) {}).Willing := ⟨rfl, takes, flushes⟩
  have fresh : path ∉ (writerFor device (skeleton title) {}).output.names := List.not_mem_nil
  obtain ⟨written, later⟩ := embed_of_willing willing whole type fresh
  obtain ⟨w, ran⟩ : ∃ w,
      (embed document path type).perform (writerFor device (skeleton title) {}) = (.ok (), w) :=
    ⟨_, Prod.ext written rfl⟩
  rw [ran] at later
  rcases embed_ok ran with doomed | ⟨ledger, slots⟩
  · exact absurd doomed later.not_doomed
  · have apart : ∀ d ∈ Bindery.Ledger.document? w.ledger,
        d.location ∉ ([.ofContent path .deflated document.rest] : Archive).map Member.name := by
      rintro d ⟨⟩
      exact fun taken => elsewhere (List.mem_singleton.mp taken).symm
    have closed : w.close.outcome = .ok () := Writer.close_of_willing later slots apart
    have left := (Writer.archive_of_close slots closed).1
    rw [ledger] at left
    rw [build_eq ran, bind_of_eq_ok rfl, delivered, bind_of_eq_ok closed, left]
    rfl

/-! ## The package, opened again -/

theorem sound_builtLedger (title path type : String) :
    (builtLedger title path type).publication.Sound :=
  (sound_skeleton title).withReadingOrder
    (List.forall_mem_singleton.mpr (Link.sound_bare path type))

theorem reopened_built (title : String) (document : Source) {path : String} (type : String)
    (elsewhere : path ≠ manifestLocation) (settings : Settings) :
    Package.ofArchive (builtArchive title document path type) settings = .ok {
      archive := builtArchive title document path type
      publication := (builtLedger title path type).publication
      settings } := by
  have sound := sound_builtLedger title path type
  have writable : (builtLedger title path type).Writable :=
    { normal := sound.normal, fits := sound.fits, normalSources := nofun, fitSources := nofun }
  have apart : manifestLocation ∉
      ([.ofContent path .deflated document.rest] : Archive).map Member.name :=
    fun taken => elsewhere (List.mem_singleton.mp taken).symm
  have again := Publication.reread?_of_isWhole sound.normal sound.whole
  exact (Package.ofArchive_behind_iff writable apart).mpr ⟨again, rfl, rfl⟩

/-- Both entries of a package that was built are files, unless the path of the document is that of
a directory. -/
theorem files_built (title : String) (document : Source) {path : String} (type : String)
    (file : ¬ IsDirectoryPath path) :
    (builtArchive title document path type).index.map Entry.name = [path, manifestLocation] ∧
      (builtArchive title document path type).read path = .ok document.rest := by
  let page : Member := .ofContent path .deflated document.rest
  let manifest := (builtLedger title path type).document.member
  have isFile : Archive.isFile page = true :=
    Bool.of_not_eq_false (mt (Archive.isFile_eq_false_iff page).mp file)
  have manifestIsFile : Archive.isFile manifest = true :=
    Archive.isFile_of_name manifestLocation rfl (by decide)
  have found : Archive.entry? [page, manifest] path = some (.of page 0) :=
    @Archive.entry?_behind [] [manifest] page isFile List.not_mem_nil
  have content : Archive.contentOf [page, manifest] (.of page 0) = .ok document.rest :=
    (Archive.contentOf_behind [] [manifest] page).trans (Member.content_ofContent _ _ _)
  constructor
  · have kept : [page, manifest].filter Archive.isFile = [page, manifest] := by
      simp only [List.filter_cons, isFile, manifestIsFile, if_true, List.filter_nil]
    rw [Archive.names_index]
    exact congrArg (List.map Member.name) kept
  · change Archive.read [page, manifest] path = _
    unfold Archive.read
    rw [bind_of_eq_ok (Archive.entry_eq_ok_iff.mpr found)]
    exact content

/-- A package that was built is opened again whatever its title is, with the document and the
manifest as its files. Its title is the given one, its only link leads to the document with the
given type and nothing else, and the document is read back. No package is built around a document in
the place of the manifest. -/
theorem build_reopens (title : String) (document : Source) (type : String) (device : Device) :
    (∀ path archive settings, build title document path type device = .ok archive →
      ¬ IsDirectoryPath path → ∃ again : Package, Package.ofArchive archive settings = .ok again ∧
        again.archive.index.map Entry.name = [path, manifestLocation] ∧
        again.publication.metadata.title = some (.plain title) ∧
        again.publication.readingOrder = [{ href := path, type }] ∧
        again.archive.read path = .ok document.rest) ∧
    ∃ e, build title document manifestLocation type device = .error e := by
  constructor
  · intro path archive settings built file
    obtain ⟨_, elsewhere, rfl⟩ := build_ok built
    obtain ⟨names, content⟩ := files_built title document type file
    exact ⟨_, reopened_built title document type elsewhere settings, names, rfl, rfl, content⟩
  · cases built : build title document manifestLocation type device with
    | error e => exact ⟨e, rfl⟩
    | ok archive => exact absurd rfl (build_ok built).2.1

/-- A title that holds the mark of the template, behind characters that JSON escapes. -/
def awkwardTitle : String := "Say \"hi\"\n\\ \x7b\x7btitle\x7d\x7d"

def shortNote : Source := { rest := [0x6f, 0x6b], declared := 2 }

theorem build_reopens_awkwardTitle :
    ¬ IsDirectoryPath "index.html" ∧
      ∃ archive, build awkwardTitle shortNote "index.html" "text/html" {} = .ok archive ∧
      ∃ again : Package, Package.ofArchive archive {} = .ok again ∧
        again.archive.index.map Entry.name = ["index.html", "manifest.json"] ∧
        again.publication.metadata.title = some (.plain awkwardTitle) ∧
        again.publication.readingOrder = [{ href := "index.html", type := "text/html" }] ∧
        again.archive.read "index.html" = .ok [0x6f, 0x6b] := by
  have file : ¬ IsDirectoryPath "index.html" := by
    unfold IsDirectoryPath
    decide
  have elsewhere : "index.html" ≠ manifestLocation := by decide
  have built : build awkwardTitle shortNote "index.html" "text/html" {} = .ok _ :=
    build_of_taken awkwardTitle rfl "text/html" elsewhere rfl rfl
  exact ⟨file, _, built,
    (build_reopens awkwardTitle shortNote "text/html" {}).1 "index.html" _ {} built file⟩

end Bindery.ReadingOrder
