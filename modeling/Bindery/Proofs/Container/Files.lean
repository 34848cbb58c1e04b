import Bindery.Proofs.Epub.Copies
import Bindery.Proofs.ReadingOrder.Seeding
import Bindery.Proofs.Zip.File

/-! Files of closed writers. No name comes twice in what a writer holds, whatever steps it takes, and
so the archive that is left of it is read back from its file. -/
namespace Bindery

open Zip (Archive Member Method Output)

namespace Writer

variable {α : Type} [Ledger α] {w v : Writer α} {archive left : Archive}

/-- A writer that holds an archive in which no name comes twice. -/
structure Holds (w : Writer α) (archive : Archive) : Prop where
  slots : w.output.settle.slots = archive.map .member
  distinct : (archive.map Member.name).Nodup

theorem Noted.holds (noted : Noted w v) (holds : w.Holds archive) : v.Holds archive where
  slots := noted.output ▸ holds.slots
  distinct := holds.distinct

theorem Entered.holds {path type : String} {method : Method} {content : Bytes}
    {outcome : Result Unit} (entered : Entered w path type method content outcome v)
    (holds : w.Holds archive) : v.Doomed ∨ ∃ archive, v.Holds archive := by
  have names := Output.names_of_slots holds.slots
  have behind (fresh : path ∉ w.output.names) :
      ((archive ++ [Member.ofContent path method content]).map Member.name).Nodup :=
    Archive.nodup_behind (m := .ofContent path method content) (names ▸ fresh) holds.distinct
  cases entered with
  | lost doomed => exact .inl doomed
  | repeated => exact .inr ⟨archive, by simpa using holds.slots, holds.distinct⟩
  | unsigned =>
    refine .inr ⟨archive, ?_, holds.distinct⟩
    rw [← holds.slots, Output.settle_settled]
  | stray _ fresh => exact .inr ⟨_, by simp [holds.slots], behind fresh⟩
  | committed _ fresh => exact .inr ⟨_, by simp [holds.slots], behind fresh⟩

theorem holds_step (holds : w.Holds archive) (step : Step) :
    (step.run.perform w).2.Doomed ∨ ∃ archive, (step.run.perform w).2.Holds archive := by
  rcases step_cases w step with ⟨_, noted⟩ | ⟨plan, outcome, v, _, entered, noted⟩
  · exact .inr ⟨archive, noted.holds holds⟩
  · rcases entered.holds holds with doomed | ⟨archive, holds⟩
    · exact .inl (noted.doomed doomed)
    · exact .inr ⟨archive, noted.holds holds⟩

theorem holds_runAll (steps : List Step) (holds : w.Holds archive) :
    (Step.runAll steps w).2.Doomed ∨ ∃ archive, (Step.runAll steps w).2.Holds archive := by
  induction steps generalizing w archive with
  | nil => exact .inr ⟨archive, holds⟩
  | cons step steps ih =>
    rcases holds_step holds step with doomed | ⟨archive, holds⟩
    · exact .inl (doomed_runAll steps doomed)
    · exact ih holds

theorem ofFile_close (holds : w.Holds archive) (closed : (close w).outcome = .ok ())
    (leaves : (close w).archive = some left) (fits : left.Fits) :
    Archive.ofFile left.toFile = .ok left := by
  obtain ⟨whole, apart⟩ := archive_of_close holds.slots closed
  obtain rfl := Option.some.inj (leaves.symm.trans whole)
  refine Archive.ofFile_toFile fits ?_
  cases document : Ledger.document? w.ledger with
  | none => simpa using holds.distinct
  | some d => exact Archive.nodup_behind (m := d.member) (apart d document).1 holds.distinct

/-- The archive that a closed run leaves is read back from its file, if it fits into one. -/
theorem ofFile_closed_run (steps : List Step) (holds : w.Holds archive)
    (closed : (close (Step.runAll steps w).2).outcome = .ok ())
    (leaves : (close (Step.runAll steps w).2).archive = some left) (fits : left.Fits) :
    Archive.ofFile left.toFile = .ok left := by
  rcases holds_runAll steps holds with doomed | ⟨archive, holds⟩
  · exact absurd closed (not_closed_of_doomed doomed)
  · exact ofFile_close holds closed leaves fits

end Writer

theorem ReadingOrder.Package.holds_newWriter {p : Package} {device : Device} {w : Writer Ledger}
    (started : p.newWriter device = .ok w) : ∃ present, w.Holds present := by
  obtain ⟨present, taken, rfl⟩ := newWriter_behind started
  exact ⟨present, rfl, (seeds_of_takenOver taken).names.distinct⟩

theorem Epub.Package.holds_newWriter {p : Package} {device : Device} {w : Writer Ledger}
    (started : p.newWriter device = .ok w) : w.Holds [declaration] := by
  obtain rfl := newWriter_eq started
  exact ⟨rfl, List.nodup_singleton _⟩

/-- What a closed destination of either kind has become is read back from its file, after any steps
and on any device, if it fits into one. -/
theorem destinations_read_back :
    (∀ (p : Epub.Package) (device : Device) (w : Writer Epub.Ledger) (steps : List Step)
      (left : Archive), p.newWriter device = .ok w →
      (Step.runAll steps w).2.close.outcome = .ok () →
      (Step.runAll steps w).2.close.archive = some left → left.Fits →
      Archive.ofFile left.toFile = .ok left) ∧
    (∀ (p : ReadingOrder.Package) (device : Device) (w : Writer ReadingOrder.Ledger)
      (steps : List Step) (left : Archive), p.newWriter device = .ok w →
      (Step.runAll steps w).2.close.outcome = .ok () →
      (Step.runAll steps w).2.close.archive = some left → left.Fits →
      Archive.ofFile left.toFile = .ok left) := by
  constructor
  · intro p device w steps left started closed leaves fits
    exact Writer.ofFile_closed_run steps (Epub.Package.holds_newWriter started) closed leaves fits
  · intro p device w steps left started closed leaves fits
    obtain ⟨present, holds⟩ := ReadingOrder.Package.holds_newWriter started
    exact Writer.ofFile_closed_run steps holds closed leaves fits

end Bindery
