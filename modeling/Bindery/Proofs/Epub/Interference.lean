import Bindery.Proofs.Epub.Run
import Bindery.Proofs.UriPath

/-! Which records a mark reaches. It changes what is found for the paths that share the escaped path
of the marked entry, be they names of other entries or not, and nothing else. Literal names share
no escaped path. Behind a whole run a path without marks that reach it has the record that it had
at the source. -/
namespace Bindery

open Zip (Archive Member Output)

/-- The path of the entry that a step marks, if it comes to that. -/
def Step.marks? : Step → Option String
  | file _ => none
  | mark m => some m.path
  | copy _ => none
  | encrypt _ r => some r.path

/-- Names without a common escaped path. -/
def UriPath.Apart (first second : String) : Prop :=
  ∀ uri, escaped? first = some uri → escaped? second ≠ some uri

namespace Epub

open Encryption (Manifest Record)
open UriPath (Apart IsLiteral escaped?)

variable {w w' v : Writer Ledger} {q : String}

theorem apart_of_literal {first second : String} (literal : IsLiteral first)
    (other : IsLiteral second) (different : first ≠ second) : Apart first second :=
  fun _ here there => different (UriPath.eq_of_escaped literal other here there)

theorem recordFor?_mark {m : Mark} {deflated : Bool} {uri : String}
    (committed : w.ledger.committed.lookup m.path = some deflated)
    (escaped : escaped? m.path = some uri) (solid : uri ≠ "") (q : String) :
    ((Writer.mark m).perform w).2.ledger.records.recordFor? q =
      if escaped? q = some uri then some (Ledger.recordFor w.settings m deflated uri)
      else w.ledger.records.recordFor? q := by
  rw [mark_committed committed escaped solid]
  change (w.ledger.records.put _).recordFor? q = _
  rw [Manifest.recordFor?_put, uri_recordFor]

theorem Marked.untouched {m : Mark} {outcome : Result Unit} (marked : Marked w m outcome w')
    (apart : Apart m.path q) :
    w'.ledger.records.recordFor? q = w.ledger.records.recordFor? q := by
  cases marked with
  | unmatched => rfl
  | unnamed => rfl
  | recorded _ escaped =>
    change (w.ledger.records.put _).recordFor? q = _
    rw [Manifest.recordFor?_put, uri_recordFor, if_neg (apart _ escaped)]

/-- `w'` has come about from `w` by entries that became the members of `added`, and `q` has the
record that it had. -/
structure Untouched (q : String) (w w' : Writer Ledger) (archive added : Archive) : Prop where
  slots : w'.output.settle.slots = (archive ++ added).map .member
  record : w'.ledger.records.recordFor? q = w.ledger.records.recordFor? q

variable {archive added more : Archive}

theorem Untouched.refl (slots : w.output.settle.slots = archive.map .member) :
    Untouched q w w archive [] where
  slots := by simpa using slots
  record := rfl

theorem Untouched.trans (first : Untouched q w v archive added)
    (second : Untouched q v w' (archive ++ added) more) :
    Untouched q w w' archive (added ++ more) where
  slots := by rw [second.slots, List.append_assoc]
  record := by rw [second.record, first.record]

theorem Untouched.marked (untouched : Untouched q w v archive added) (m : Mark)
    (apart : Apart m.path q) :
    Untouched q w ((Writer.mark m).perform v).2 archive added where
  slots := by
    rw [← untouched.slots]
    exact congrArg (fun o => o.settle.slots) (Writer.output_mark v m)
  record := by
    rw [← untouched.record]
    exact (Epub.marked v m).untouched apart

theorem untouched_of_entered {path type : String} {method : Zip.Method} {content : Bytes}
    {outcome : Result Unit} (slots : w.output.settle.slots = archive.map .member)
    (entered : Writer.Entered w path type method content outcome w') :
    w'.Doomed ∨ ∃ added, Untouched q w w' archive added ∧ ∀ m ∈ added, some path = some m.name := by
  rcases entered.grown slots with doomed | ⟨added, grown, named, same | ⟨draft, same⟩⟩
  · exact .inl doomed
  · exact .inr ⟨added, ⟨grown, by rw [same]⟩, fun m listed => congrArg some (named m listed).symm⟩
  · refine .inr ⟨added, ⟨grown, ?_⟩, fun m listed => congrArg some (named m listed).symm⟩
    rw [same]
    rfl

theorem untouched_step (step : Step) (slots : w.output.settle.slots = archive.map .member)
    (apart : ∀ path ∈ step.marks?, Apart path q) :
    (step.run.perform w).2.Doomed ∨ ∃ added,
      Untouched q w (step.run.perform w).2 archive added ∧
      ∀ m ∈ added, step.opens? = some m.name := by
  cases step with
  | file plan => exact untouched_of_entered slots (Writer.entered_file w plan)
  | mark m =>
    right
    exact ⟨[], (Untouched.refl slots).marked m (apart m.path rfl), by simp⟩
  | copy r =>
    obtain ⟨outcome, entered, _⟩ := Writer.enters_copy w r
    exact untouched_of_entered slots entered
  | encrypt cipher r =>
    rcases Writer.encrypt_cases w cipher r with ⟨e, _, performed⟩ |
      ⟨plain, reads, outcome, v, entered, performed⟩
    · rw [performed]
      exact .inr ⟨[], Untouched.refl slots, by simp⟩
    have opens : (Step.encrypt cipher r).opens? = some r.path := by
      simp [Step.opens?, reads, Except.isOk, Except.toBool]
    rw [performed, opens]
    rcases untouched_of_entered slots entered with doomed | ⟨added, untouched, named⟩
    · cases outcome with
      | error e => exact .inl doomed
      | ok => exact .inl (doomed.mark _)
    · cases outcome with
      | error e => exact .inr ⟨added, untouched, named⟩
      | ok => exact .inr ⟨added, untouched.marked _ (apart r.path rfl), named⟩

theorem untouched_runAll (steps : List Step) (slots : w.output.settle.slots = archive.map .member)
    (apart : ∀ step ∈ steps, ∀ path ∈ step.marks?, Apart path q) :
    (Step.runAll steps w).2.Doomed ∨ ∃ added,
      Untouched q w (Step.runAll steps w).2 archive added ∧
      ∀ m ∈ added, ∃ step ∈ steps, step.opens? = some m.name := by
  induction steps generalizing w archive with
  | nil => exact .inr ⟨[], Untouched.refl slots, by simp⟩
  | cons step steps ih =>
    obtain ⟨here, later⟩ := List.forall_mem_cons.mp apart
    rw [runAll_cons]
    rcases untouched_step step slots here with doomed | ⟨added, first, named⟩
    · exact .inl (Writer.doomed_runAll _ doomed)
    rcases ih first.slots later with doomed | ⟨more, rest, names⟩
    · exact .inl doomed
    refine .inr ⟨added ++ more, first.trans rest, ?_⟩
    intro m listed
    rcases List.mem_append.mp listed with early | late
    · exact ⟨step, List.mem_cons_self, named m early⟩
    · obtain ⟨s, among, opens⟩ := names m late
      exact ⟨s, List.mem_cons_of_mem step among, opens⟩

/-- A container that a run has left holds the records of its writer, if nothing of the run stands
at their place. -/
theorem recordsIn_closed {p : Package} {device : Device} {start : Writer Ledger}
    {steps : List Step} (started : p.newWriter device = .ok start)
    (elsewhere : ∀ step ∈ steps, step.opens? ≠ some Encryption.location)
    (closed : (Step.runAll steps start).2.close.outcome = .ok ())
    (apart : ∀ step ∈ steps, ∀ path ∈ step.marks?, Apart path q) :
    ∃ copy records, (Step.runAll steps start).2.close.archive = some copy ∧
      Package.recordsIn copy = .ok records ∧
      records.recordFor? q = p.records.recordFor? q := by
  obtain ⟨slots, carried⟩ := Package.newWriter_ok started
  rcases untouched_runAll steps slots apart with doomed | ⟨added, untouched, named⟩
  · exact absurd closed (Writer.not_closed_of_doomed doomed)
  obtain ⟨left, _⟩ := Writer.archive_of_close untouched.slots closed
  have fresh : Encryption.location ∉ ([Package.declaration] ++ added).map Member.name := by
    intro here
    obtain ⟨m, listed, same⟩ := List.mem_map.mp here
    rcases List.mem_append.mp listed with first | late
    · obtain rfl := List.mem_singleton.mp first
      exact absurd same (by decide)
    · obtain ⟨step, among, opens⟩ := named m late
      exact elsewhere step among (opens.trans (congrArg some same))
  refine ⟨_, (Step.runAll steps start).2.ledger.records, left,
    Package.recordsIn_behind _ fresh, ?_⟩
  rw [untouched.record, carried]

/-- Marks of other entries. (1) In every state, a mark of a committed entry succeeds if it has an
escaped path that is not empty, and then a path has the record that it had before just if it does
not share this escaped path, or had that very record. (2) Literal names do not share one. (3) A path
that is apart from all that is marked in a run has the record at the reopened destination that it
had at the source. -/
theorem records_apart (q : String) :
    (∀ (w : Writer Ledger) (m : Mark) (deflated : Bool) (uri : String),
      w.ledger.committed.lookup m.path = some deflated → escaped? m.path = some uri → uri ≠ "" →
      ((Writer.mark m).perform w).1 = .ok () ∧
      (((Writer.mark m).perform w).2.ledger.records.recordFor? q =
          w.ledger.records.recordFor? q ↔
        Apart m.path q ∨ w.ledger.records.recordFor? q =
          some (Ledger.recordFor w.settings m deflated uri))) ∧
    (∀ other : String, IsLiteral other → IsLiteral q → other ≠ q → Apart other q) ∧
    (∀ (p : Package) (device : Device) (start : Writer Ledger) (steps : List Step)
      (later : Settings), p.newWriter device = .ok start →
      (∀ step ∈ steps, step.opens? ≠ some Encryption.location) →
      (Step.runAll steps start).2.close.outcome = .ok () →
      (∀ step ∈ steps, ∀ path ∈ step.marks?, Apart path q) →
      ∃ copy, (Step.runAll steps start).2.close.archive = some copy ∧
        ((copy.entry? containerLocation).isSome = true →
          ∃ p', Package.ofArchive copy later = .ok p' ∧
            p'.records.recordFor? q = p.records.recordFor? q)) := by
  refine ⟨?_, fun _ => apart_of_literal, ?_⟩
  · intro w m deflated uri committed escaped solid
    refine ⟨by rw [mark_committed committed escaped solid], ?_⟩
    rw [recordFor?_mark committed escaped solid]
    constructor
    · intro same
      by_cases shared : escaped? q = some uri
      · rw [if_pos shared] at same
        exact .inr same.symm
      · left
        intro other named
        cases escaped.symm.trans named
        exact shared
    · rintro (apart | had)
      · rw [if_neg (apart uri escaped)]
      · by_cases shared : escaped? q = some uri
        · rw [if_pos shared, had]
        · rw [if_neg shared]
  · intro p device start steps later started elsewhere closed apart
    obtain ⟨copy, records, left, held, same⟩ :=
      recordsIn_closed started elsewhere closed apart
    refine ⟨copy, left, fun contained => ?_⟩
    exact ⟨{ archive := copy, records, settings := later },
      Package.ofArchive_ok_iff.mpr ⟨contained, held, rfl, rfl⟩, same⟩

def page (path : String) : EntryPlan :=
  { path, type := "application/xhtml+xml", method := .stored, chunks := [] }

def remadeBook : List Step :=
  [.file (page containerLocation), .file (page "a.xhtml"), .file (page "b.xhtml"),
    .mark (ReadingOrder.markFor "b.xhtml" "basic")]

theorem literal_pages : IsLiteral "a.xhtml" ∧ IsLiteral "b.xhtml" :=
  ⟨UriPath.isLiteral_of_all (by decide) (by decide),
    UriPath.isLiteral_of_all (by decide) (by decide)⟩

/-- Another mark of the second page leaves the record of the first one, and the remade book has the
record for it that the book had. -/
theorem records_apart_pages :
    ((Writer.mark (ReadingOrder.markFor "b.xhtml" "again")).perform
        (Step.runAll remadeBook bookWriter).2).2.ledger.records.recordFor? "a.xhtml" =
      (Step.runAll remadeBook bookWriter).2.ledger.records.recordFor? "a.xhtml" ∧
    ∃ copy p', (Step.runAll remadeBook bookWriter).2.close.archive = some copy ∧
      Package.ofArchive copy {} = .ok p' ∧
      p'.records.recordFor? "a.xhtml" = book.records.recordFor? "a.xhtml" := by
  have apart : Apart "b.xhtml" "a.xhtml" :=
    (records_apart "a.xhtml").2.1 _ literal_pages.2 literal_pages.1 (by decide)
  constructor
  · have reaches := ((records_apart "a.xhtml").1 (Step.runAll remadeBook bookWriter).2
      (ReadingOrder.markFor "b.xhtml" "again") false "b.xhtml" rfl (by decide) (by decide)).2
    exact reaches.mpr (.inl apart)
  · have elsewhere : ∀ step ∈ remadeBook, step.opens? ≠ some Encryption.location := by
      have opened : ∀ place ∈ remadeBook.map Step.opens?, place ≠ some Encryption.location := by
        decide
      exact fun step among => opened _ (List.mem_map_of_mem among)
    have apart : ∀ step ∈ remadeBook, ∀ path ∈ step.marks?, Apart path "a.xhtml" := by
      have marks : ∀ place ∈ remadeBook.map Step.marks?, ∀ path ∈ place, path = "b.xhtml" := by
        decide
      intro step among path given
      rw [marks _ (List.mem_map_of_mem among) path given]
      exact apart
    obtain ⟨copy, left, reopens⟩ := (records_apart "a.xhtml").2.2 book {} bookWriter remadeBook {}
      started_book elsewhere rfl apart
    have contained : (copy.entry? containerLocation).isSome = true := by
      cases left
      rw [Zip.Archive.isSome_entry?_iff]
      exact List.mem_cons_of_mem _ List.mem_cons_self
    obtain ⟨p', reopened, same⟩ := reopens contained
    exact ⟨copy, p', left, reopened, same⟩

/-! ## Numbered pages -/

def numberedPages : List Step :=
  [.file (page containerLocation), .file (page "page#1.xhtml"), .file (page "page#2.xhtml")]

def numberedRun : List (Result Unit) × Writer Ledger :=
  Step.runAll numberedPages (bareBook.destination {})

theorem numberedPages_collide :
    Package.ofArchive bareBook.archive {} = .ok bareBook ∧
      bareBook.newWriter {} = .ok (bareBook.destination {}) ∧
      numberedRun.1 = [.ok (), .ok (), .ok ()] ∧
      numberedRun.2.ledger.committed.map Prod.fst =
        ["page#2.xhtml", "page#1.xhtml", containerLocation] ∧
      escaped? "page#1.xhtml" = some "page" ∧ escaped? "page#2.xhtml" = some "page" ∧
      ((Writer.mark (ReadingOrder.markFor "page#1.xhtml" "basic")).perform numberedRun.2).1 =
        .ok () ∧
      numberedRun.2.ledger.records.recordFor? "page#2.xhtml" = none ∧
      (((Writer.mark (ReadingOrder.markFor "page#1.xhtml" "basic")).perform
        numberedRun.2).2.ledger.records.recordFor? "page#2.xhtml").isSome = true := by
  exact ⟨opened_bareBook, rfl, rfl, rfl, by decide, by decide, rfl, rfl, rfl⟩

end Epub
end Bindery
