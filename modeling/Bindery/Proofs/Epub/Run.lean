import Bindery.Proofs.Epub.Copies
import Bindery.Proofs.Epub.Mark
import Bindery.Proofs.ReadingOrder.Meaning

/-! What a whole run of an EPUB destination means on a device that refuses nothing: which entries
the archive has behind it, and which records its encryption manifest. Only the steps and what came
of them are looked at. A mark for a path at which nothing was finished makes no record, also where
the settings let it pass for a success. -/
namespace Bindery.Epub

open Encryption (Manifest Record)
open ReadingOrder (entryOf)
open Zip (Archive Member Output)

def recordOf? (settings : Settings) (before : List EntryPlan) (m : Mark) : Option Record := do
  let plan ← before.find? (·.path = m.path)
  let uri ← UriPath.escaped? m.path
  return Ledger.recordFor settings m plan.plaintextDeflated uri

/-- The records that a run makes if some entries were finished before, in the order of its marks. -/
def recordsMade (settings : Settings) (before : List EntryPlan) :
    List (Step × Result Unit) → List Record
  | [] => []
  | (.file plan, .ok ()) :: rest => recordsMade settings (plan :: before) rest
  | (.mark m, .ok ()) :: rest =>
    (recordOf? settings before m).toList ++ recordsMade settings before rest
  | _ :: rest => recordsMade settings before rest

def isMarked : Step × Result Unit → Bool
  | (.mark _, .ok ()) => true
  | _ => false

def flags (before : List EntryPlan) : List (String × Bool) :=
  before.map fun plan => (plan.path, plan.plaintextDeflated)

theorem lookup_flags (before : List EntryPlan) (path : String) :
    (flags before).lookup path =
      (before.find? (·.path = path)).map EntryPlan.plaintextDeflated := by
  induction before with
  | nil => rfl
  | cons plan before ih =>
    by_cases here : plan.path = path
    · simp [flags, here]
    · have other : (path == plan.path) = false := by
        simpa using fun same : path = plan.path => here same.symm
      have rest : (before.map fun plan => (plan.path, plan.plaintextDeflated)).lookup path = _ := ih
      simp [flags, List.lookup_cons, other, here, rest]

section
variable {w : Writer Ledger} {before : List EntryPlan}

theorem recordOf?_eq_none {m : Mark} (remembered : w.ledger.committed = flags before)
    (absent : w.ledger.committed.lookup m.path = none) :
    recordOf? w.settings before m = none := by
  rw [remembered, lookup_flags, Option.map_eq_none_iff] at absent
  simp [recordOf?, absent]

theorem recordOf?_eq_some {m : Mark} {deflated : Bool} {uri : String}
    (remembered : w.ledger.committed = flags before)
    (committed : w.ledger.committed.lookup m.path = some deflated)
    (escaped : UriPath.escaped? m.path = some uri) :
    recordOf? w.settings before m = some (Ledger.recordFor w.settings m deflated uri) := by
  rw [remembered, lookup_flags, Option.map_eq_some_iff] at committed
  obtain ⟨plan, found, rfl⟩ := committed
  simp [recordOf?, found, escaped]

/-- A mark puts the record that it makes. One that fails makes none. -/
theorem mark_records (m : Mark) (remembered : w.ledger.committed = flags before) :
    ((Writer.mark m).perform w).2 = { w with ledger := { w.ledger with
      records := (recordsMade w.settings before
          [(.mark m, ((Writer.mark m).perform w).1)]).foldl Manifest.updated
        w.ledger.records } } := by
  have become := marked w m
  generalize ((Writer.mark m).perform w).1 = outcome at become ⊢
  generalize ((Writer.mark m).perform w).2 = w' at become ⊢
  cases become with
  | unmatched absent =>
    have nothing := recordOf?_eq_none remembered absent
    cases Writer.unmatched w.settings m.path with
    | error e => simp [recordsMade]
    | ok => simp [recordsMade, nothing]
  | unnamed => simp [recordsMade]
  | recorded committed escaped =>
    have made := recordOf?_eq_some remembered committed escaped
    simp [recordsMade, made, Manifest.put_eq_updated]

/-- Where marks of unfinished entries are rejected, each one that succeeds makes a record. -/
theorem recordOf?_of_reject (m : Mark) (remembered : w.ledger.committed = flags before)
    (strict : w.settings.unmatched = .reject) (passed : ((Writer.mark m).perform w).1 = .ok ()) :
    (recordOf? w.settings before m).isSome = true := by
  have become := marked w m
  generalize ((Writer.mark m).perform w).1 = outcome at become passed
  generalize ((Writer.mark m).perform w).2 = w' at become
  cases become with
  | unmatched => simp [Writer.unmatched, strict] at passed
  | unnamed => cases passed
  | recorded committed escaped => simp [recordOf?_eq_some remembered committed escaped]

/-- A writer on a device that refuses nothing, which holds an archive and remembers some entries. -/
structure Ready (w : Writer Ledger) (archive : Archive) (before : List EntryPlan) : Prop where
  slots : w.output.settle.slots = archive.map .member
  willing : w.Willing
  remembered : w.ledger.committed = flags before

variable {archive : Archive}

theorem ready_file (ready : Ready w archive before) (plan : EntryPlan)
    (kept : ¬ ((Step.file plan).run.perform w).2.Doomed) :
    (∃ e, (Step.file plan).run.perform w = (.error e, { w with output := w.output.settle }) ∧
      Ready { w with output := w.output.settle } archive before) ∨
    ∃ w', (Step.file plan).run.perform w = (.ok (), w') ∧ w'.settings = w.settings ∧
      w'.ledger.records = w.ledger.records ∧
      Ready w' (archive ++ [entryOf plan]) (plan :: before) := by
  by_cases fresh : plan.path ∈ w.output.names
  · obtain ⟨e, refused⟩ := Writer.file_of_taken ready.willing plan fresh kept
    left
    refine ⟨e, refused, ?_, ready.willing.settled, ready.remembered⟩
    simpa using ready.slots
  · cases finishes : plan.finishes with
    | false => exact absurd (Writer.doomed_of_unfinished ready.willing plan fresh finishes) kept
    | true =>
      obtain ⟨draft, path, flag, ran⟩ := Writer.file_of_willing ready.willing plan fresh finishes
      right
      refine ⟨_, ran, rfl, rfl, ?_, ?_, ?_⟩
      · simp [ready.slots, entryOf]
      · exact ready.willing.opened _ _
      · change (draft.path, draft.plaintextDeflated) :: w.ledger.committed = _
        rw [path, flag, ready.remembered]
        rfl

/-- What a run turns a writer into. -/
structure Means (w w' : Writer Ledger) (archive : Archive) (before : List EntryPlan)
    (run : List (Step × Result Unit)) : Prop where
  slots : w'.output.settle.slots =
    (archive ++ (finished run).map fun e => entryOf e.1).map .member
  records : w'.ledger.records =
    (recordsMade w.settings before run).foldl Manifest.updated w.ledger.records
  strict : w.settings.unmatched = .reject →
    (recordsMade w.settings before run).length = run.countP isMarked

theorem recordsMade_mark (settings : Settings) (before : List EntryPlan) (m : Mark)
    (outcome : Result Unit) (run : List (Step × Result Unit)) :
    recordsMade settings before ((.mark m, outcome) :: run) =
      recordsMade settings before [(.mark m, outcome)] ++ recordsMade settings before run := by
  cases outcome with
  | ok => simp [recordsMade]
  | error e => simp [recordsMade]

theorem ready_mark (ready : Ready w archive before) (m : Mark) :
    Ready ((Writer.mark m).perform w).2 archive before := by
  rw [mark_records m ready.remembered]
  constructor
  · exact ready.slots
  · exact ⟨ready.willing.intact, ready.willing.takes, ready.willing.flushes⟩
  · exact ready.remembered

variable {v w' : Writer Ledger} {run : List (Step × Result Unit)} {plan : EntryPlan}

theorem Means.behind_mark (m : Mark) (remembered : w.ledger.committed = flags before)
    (means : Means ((Writer.mark m).perform w).2 w' archive before run) :
    Means w w' archive before ((.mark m, ((Writer.mark m).perform w).1) :: run) := by
  have marked := mark_records m remembered
  have settings := congrArg Writer.settings marked
  have records := congrArg (fun w => w.ledger.records) marked
  constructor
  · exact means.slots
  · rw [means.records, settings, records, recordsMade_mark w.settings before m _ run,
      List.foldl_append]
  · intro rejects
    have rest := means.strict (settings ▸ rejects)
    have made := recordOf?_of_reject m remembered rejects
    rw [settings] at rest
    rw [recordsMade_mark, List.length_append, List.countP_cons, rest, Nat.add_comm]
    cases passed : ((Writer.mark m).perform w).1 with
    | error e => simp [recordsMade, isMarked]
    | ok =>
      obtain ⟨record, one⟩ := Option.isSome_iff_exists.mp (made passed)
      simp [recordsMade, isMarked, one]

theorem Means.behind_refused {e : Error} (means : Means v w' archive before run)
    (settings : v.settings = w.settings) (records : v.ledger.records = w.ledger.records) :
    Means w w' archive before ((.file plan, .error e) :: run) := by
  constructor
  · exact means.slots
  · rw [means.records, settings, records]
    rfl
  · intro rejects
    have rest := means.strict (settings ▸ rejects)
    rw [settings] at rest
    rw [List.countP_cons]
    exact rest

theorem Means.behind_finished (means : Means v w' (archive ++ [entryOf plan]) (plan :: before) run)
    (settings : v.settings = w.settings) (records : v.ledger.records = w.ledger.records) :
    Means w w' archive before ((.file plan, .ok ()) :: run) := by
  constructor
  · rw [means.slots]
    simp [finished]
  · rw [means.records, settings, records]
    rfl
  · intro rejects
    have rest := means.strict (settings ▸ rejects)
    rw [settings] at rest
    rw [List.countP_cons]
    exact rest

/-- A run from a ready writer on means what its steps mean one after the other, if it does not lose
the writer. -/
theorem means_runAll (steps : List Step) (ready : Ready w archive before)
    (direct : ∀ step ∈ steps, step.IsDirect) (kept : ¬ (Step.runAll steps w).2.Doomed) :
    Means w (Step.runAll steps w).2 archive before (steps.zip (Step.runAll steps w).1) := by
  induction steps generalizing w archive before with
  | nil =>
    constructor
    · simpa [Step.runAll, finished] using ready.slots
    · simp [Step.runAll, recordsMade]
    · simp [Step.runAll, recordsMade]
  | cons step steps ih =>
    have later := fun s hs => direct s (List.mem_cons_of_mem step hs)
    have alive : ¬ (step.run.perform w).2.Doomed :=
      fun doomed => kept (Writer.doomed_runAll steps doomed)
    rw [runAll_cons] at kept ⊢
    rw [outcomes_cons, List.zip_cons_cons]
    cases step with
    | copy r => exact absurd (direct _ List.mem_cons_self) id
    | encrypt cipher r => exact absurd (direct _ List.mem_cons_self) id
    | mark m => exact (ih (ready_mark ready m) later kept).behind_mark m ready.remembered
    | file plan =>
      rcases ready_file ready plan alive with ⟨e, performed, ready'⟩ |
        ⟨w', performed, settings, records, ready'⟩
      · rw [performed] at kept ⊢
        exact (ih ready' later kept).behind_refused rfl rfl
      · rw [performed] at kept ⊢
        exact (ih ready' later kept).behind_finished settings records

end

theorem opens_of_mem_finished {steps : List Step} {outcomes : List (Result Unit)}
    {e : EntryPlan × List Step} (listed : e ∈ finished (steps.zip outcomes)) :
    ∃ step ∈ steps, step.opens? = some e.1.path := by
  induction steps generalizing outcomes with
  | nil => cases listed
  | cons step steps ih =>
    cases outcomes with
    | nil => cases listed
    | cons outcome outcomes =>
      have behind : e ∈ finished (steps.zip outcomes) →
          ∃ s ∈ step :: steps, s.opens? = some e.1.path := by
        intro later
        obtain ⟨s, among, opens⟩ := ih later
        exact ⟨s, List.mem_cons_of_mem step among, opens⟩
      cases step with
      | mark m => exact behind listed
      | copy r => exact behind listed
      | encrypt cipher r => exact behind listed
      | file plan =>
        cases outcome with
        | error err => exact behind listed
        | ok =>
          rcases List.mem_cons.mp listed with rfl | later
          · exact ⟨_, List.mem_cons_self, rfl⟩
          · exact behind later

/-- The records behind a run from a container: those of the source, changed by the records that the
marks of the run make. -/
def recordsBehind (p : Package) (run : List (Step × Result Unit)) : Manifest :=
  (recordsMade p.settings [] run).foldl Manifest.updated p.records

/-- A run on a device that refuses nothing that ends in a successful close. The archive is the media
type declaration, the finished entries, and the encryption manifest if there are records. -/
theorem archive_of_closed_run (p : Package) (device : Device) (start w : Writer Ledger)
    (steps : List Step) (outcomes : List (Result Unit))
    (started : p.newWriter device = .ok start) (takes : device.refused = none)
    (flushes : device.refusesFlush = false) (direct : ∀ step ∈ steps, step.IsDirect)
    (ran : Step.runAll steps start = (outcomes, w)) (closed : w.close.outcome = .ok ()) :
    ∃ declaration : Member, ∃ document : Option Member,
      w.close.archive = some (declaration ::
        (finished (steps.zip outcomes)).map (fun e => entryOf e.1) ++ document.toList) ∧
      (declaration.name = mimetypeLocation ∧ declaration.packing = .known .stored ∧
        declaration.content = .ok (utf8Bytes mimetype)) ∧
      (∀ e ∈ finished (steps.zip outcomes), (entryOf e.1).name = e.1.path ∧
        (entryOf e.1).packing = .known e.1.method ∧
        (entryOf e.1).content = .ok e.1.chunks.flatten) ∧
      (document.isSome = true ↔ recordsBehind p (steps.zip outcomes) ≠ []) ∧
      (∀ m ∈ document, m.name = Encryption.location ∧ ∃ content, m.content = .ok content ∧
        Manifest.readDocument content = .ok (recordsBehind p (steps.zip outcomes))) ∧
      ((∀ step ∈ steps, step.opens? ≠ some Encryption.location) →
        ∀ e ∈ finished (steps.zip outcomes), (entryOf e.1).name ≠ Encryption.location) ∧
      (p.settings.unmatched = .reject →
        (recordsMade p.settings [] (steps.zip outcomes)).length =
          (steps.zip outcomes).countP isMarked) := by
  have outcome : outcomes = (Step.runAll steps start).1 := by rw [ran]
  have behind : w = (Step.runAll steps start).2 := by rw [ran]
  subst outcome behind
  obtain rfl := Package.newWriter_eq started
  have kept : ¬ (Step.runAll steps (p.destination device)).2.Doomed :=
    fun doomed => Writer.not_closed_of_doomed doomed closed
  have ready : Ready (p.destination device) [Package.declaration] [] :=
    ⟨Output.slots_settle_opened _ _, p.destination_willing takes flushes, rfl⟩
  have means := means_runAll steps ready direct kept
  have records : (Step.runAll steps (p.destination device)).2.ledger.records =
    recordsBehind p (steps.zip (Step.runAll steps (p.destination device)).1) := means.records
  obtain ⟨left, _⟩ := Writer.archive_of_close means.slots closed
  refine ⟨Package.declaration,
    (Step.runAll steps (p.destination device)).2.ledger.document?.map LedgerDocument.member,
    ?_, ⟨rfl, rfl, Member.content_ofContent _ _ _⟩, ?_, ?_, ?_, ?_, means.strict⟩
  · rw [left, ← Option.toList_map]
    rfl
  · intro e _
    exact ⟨rfl, rfl, Member.content_ofContent _ _ _⟩
  · rw [← records, Option.isSome_map]
    rcases Package.document?_cases (Step.runAll steps (p.destination device)).2.ledger with
      ⟨empty, nothing⟩ | ⟨some, document⟩
    · simp [empty, nothing]
    · simp [some, document]
  · intro m given
    rw [← records]
    rcases Package.document?_cases (Step.runAll steps (p.destination device)).2.ledger with
      ⟨_, nothing⟩ | ⟨_, document⟩
    · rw [nothing] at given
      cases given
    · rw [document] at given
      cases given
      exact ⟨rfl, _, Member.content_ofContent _ _ _, Encryption.readDocument_render _⟩
  · intro apart e listed named
    obtain ⟨step, among, opens⟩ := opens_of_mem_finished listed
    exact apart step among (opens.trans (congrArg some named))

/-- A page is marked before it is there and behind it, and written twice; another page that is never
written is marked. -/
def lateMarks : List Step :=
  [.mark (ReadingOrder.markFor "a.xhtml" "early"),
    .mark (ReadingOrder.markFor "ghost.xhtml" "basic"),
    .file (ReadingOrder.chapter "b.xhtml"), .file (ReadingOrder.chapter "a.xhtml"),
    .mark (ReadingOrder.markFor "b.xhtml" "basic"), .file (ReadingOrder.chapter "a.xhtml"),
    .mark (ReadingOrder.markFor "a.xhtml" "late")]

def lateRun : List (Result Unit) × Writer Ledger := Step.runAll lateMarks bookWriter

def chapterRecord (path : String) : Record :=
  Ledger.recordFor {} (ReadingOrder.markFor path "late") false path

theorem archive_of_closed_run_late : lateRun.2.close.outcome = .ok () ∧
    ∃ declaration document : Member,
      lateRun.2.close.archive = some [declaration, entryOf (ReadingOrder.chapter "b.xhtml"),
        entryOf (ReadingOrder.chapter "a.xhtml"), document] ∧
      ∃ content, document.content = .ok content ∧
        Manifest.readDocument content = .ok [chapterRecord "a.xhtml", chapterRecord "b.xhtml"] := by
  have direct : ∀ step ∈ lateMarks, step.IsDirect := by simp [lateMarks, Step.IsDirect]
  have closed : lateRun.2.close.outcome = .ok () := rfl
  obtain ⟨declaration, document, left, _, _, present, read, _⟩ :=
    archive_of_closed_run book {} bookWriter lateRun.2 lateMarks lateRun.1 started_book rfl rfl
      direct rfl closed
  have records : recordsBehind book (lateMarks.zip lateRun.1) =
      [chapterRecord "a.xhtml", chapterRecord "b.xhtml"] := rfl
  rw [records] at present read
  obtain ⟨m, rfl⟩ := Option.isSome_iff_exists.mp (present.mpr (List.cons_ne_nil _ _))
  exact ⟨closed, declaration, m, left, (read m rfl).2⟩

/-! ## A mark of a page that is never written -/

/-- A container with nothing in it but its container document. -/
def bareBook : Package where
  archive := [Package.declaration] ++ [.ofContent containerLocation .stored [0x3c]]
  records := []
  settings := {}

theorem opened_bareBook : Package.ofArchive bareBook.archive {} = .ok bareBook := by
  have named : ∀ m ∈ [Member.ofContent containerLocation .stored [0x3c]],
      isPart m.name = true := by
    intro m listed
    obtain rfl := List.mem_singleton.mp listed
    decide
  have contained : (bareBook.archive.entry? containerLocation).isSome = true := by
    rw [Zip.Archive.isSome_entry?_iff]
    exact List.mem_map_of_mem (List.mem_filter.mpr ⟨List.mem_cons_of_mem _ List.mem_cons_self, rfl⟩)
  exact Package.ofArchive_ok_iff.mpr
    ⟨contained, Package.recordsIn_of_parts { records := [] } named, rfl, rfl⟩

/-- The mark succeeds and makes no record: the archive has no encryption manifest, while the records
of the source changed by the record of any mark are not empty. -/
theorem ghost_unrecorded :
    Package.ofArchive bareBook.archive {} = .ok bareBook ∧
      bareBook.newWriter {} = .ok (bareBook.destination {}) ∧
      Step.runAll [.mark (ReadingOrder.markFor "ghost.xhtml" "basic")] (bareBook.destination {}) =
        ([.ok ()], bareBook.destination {}) ∧
      (bareBook.destination {}).close.outcome = .ok () ∧
      (bareBook.destination {}).close.archive = some [Package.declaration] ∧
      ∀ record, bareBook.records.updated record ≠ [] := by
  refine ⟨opened_bareBook, rfl, rfl, rfl, rfl, ?_⟩
  intro record
  exact List.cons_ne_nil _ _

end Bindery.Epub
