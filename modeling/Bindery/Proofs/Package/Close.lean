import Bindery.Proofs.Package.Entry

/-! The end of a writer. A writer that is closed with success has abandoned nothing, and its archive
is what it held with the document of its ledger behind it. -/
namespace Bindery

open Zip (Archive Member Method Output)

def LedgerDocument.member (d : LedgerDocument) : Member :=
  .ofContent d.location .deflated d.content

namespace Writer

variable {α : Type}

theorem onOutput_ok {β : Type} {act : Action Output β} {b : β} {w w' : Writer α}
    (ran : (onOutput act : Action (Writer α) β) w = .ok b w') :
    ∃ o, act w.output = .ok b o ∧ w' = { w with output := o } := by
  cases result : act w.output with
  | ok c o =>
    rw [onOutput_of_ok result] at ran
    cases ran
    exact ⟨o, rfl, rfl⟩
  | error e o =>
    rw [onOutput_of_error result] at ran
    cases ran

variable [Ledger α]

theorem close_ok {w : Writer α} (closed : (close w).outcome = .ok ()) :
    ∃ w' o, (writeDocument : Action (Writer α) Unit) w = .ok () w' ∧
      Output.finish w'.output = .ok () o ∧ (close w).archive = o.members? := by
  unfold close at closed ⊢
  cases documented : (writeDocument : Action (Writer α) Unit) w with
  | error e w' =>
    simp only [Action.perform_of_error documented] at closed
    cases closed
  | ok _ w' =>
    simp only [Action.perform_of_ok documented] at closed ⊢
    cases ended : Output.finish w'.output with
    | error e o =>
      simp only [Action.perform_of_error ended] at closed
      cases closed
    | ok _ o =>
      refine ⟨w', o, rfl, ended, ?_⟩
      simp [Action.perform_of_ok ended, Except.isOk, Except.toBool]

theorem writeDocument_ok {w w' : Writer α}
    (written : (writeDocument : Action (Writer α) Unit) w = .ok () w') :
    w.abandoned = none ∧
      match Ledger.document? w.ledger with
      | none => w' = w
      | some d => d.location ∉ w.output.names ∧ w.output.device.refuses Zip.localSignature = false ∧
          w' = w.writing d.location .deflated d.content := by
  unfold writeDocument at written
  obtain ⟨_, v, intact, written⟩ := Action.bind_ok written
  rcases Option.eq_none_or_eq_some w.abandoned with given | ⟨first, given⟩
  · rw [checkIntact_of_intact given] at intact
    cases intact
    have got : (get : Action (Writer α) (Writer α)) w = .ok w w := rfl
    rw [Action.bind_of_ok got] at written
    refine ⟨given, ?_⟩
    cases document : Ledger.document? w.ledger with
    | none =>
      simp only [document] at written
      cases written
      rfl
    | some d =>
      simp only [document] at written
      obtain ⟨o, filled, rfl⟩ := onOutput_ok written
      obtain ⟨fresh, signature, rfl⟩ := Output.filled_ok filled
      exact ⟨fresh, signature, rfl⟩
  · rw [checkIntact_of_abandoned given] at intact
    cases intact

theorem archive_of_close {w : Writer α} {archive : Archive}
    (slots : w.output.settle.slots = archive.map .member)
    (closed : (close w).outcome = .ok ()) :
    (close w).archive = some (archive ++
      (Ledger.document? w.ledger).toList.map LedgerDocument.member) ∧
    ∀ d ∈ Ledger.document? w.ledger, d.location ∉ archive.map Member.name ∧
      w.output.device.refuses Zip.localSignature = false := by
  have names := Output.names_of_slots slots
  obtain ⟨w', o, written, ended, left⟩ := close_ok closed
  obtain ⟨rfl, _⟩ := Output.finish_ok ended
  obtain ⟨_, document⟩ := writeDocument_ok written
  rw [left]
  cases given : Ledger.document? w.ledger with
  | none =>
    simp only [given] at document
    subst document
    refine ⟨?_, by simp⟩
    rw [Output.members_of_slots slots]
    simp
  | some d =>
    simp only [given] at document
    obtain ⟨fresh, signature, rfl⟩ := document
    rw [names] at fresh
    refine ⟨?_, by rintro _ ⟨⟩; exact ⟨fresh, signature⟩⟩
    apply Output.members_of_slots
    rw [writing, Output.slots_settle_opened, slots]
    simp [LedgerDocument.member]

theorem not_closed_of_doomed {w : Writer α} (doomed : w.Doomed) : (close w).outcome ≠ .ok () := by
  intro closed
  obtain ⟨w', o, written, ended, _⟩ := close_ok closed
  obtain ⟨intact, document⟩ := writeDocument_ok written
  have grown : Output.Extends w.output w'.output := by
    cases given : Ledger.document? w.ledger with
    | none =>
      simp only [given] at document
      subst document
      exact Output.Extends.refl _
    | some d =>
      simp only [given] at document
      obtain ⟨_, _, rfl⟩ := document
      exact Output.extends_opened _ _
  rcases doomed with given | broken
  · rw [intact] at given
    cases given
  · exact (Output.finish_ok ended).2 (grown.broken broken)

end Writer
end Bindery
