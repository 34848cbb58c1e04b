import Bindery.Epub.Ledger
import Bindery.Proofs.Encryption.Lookup
import Bindery.Proofs.Package.Entry

/-! Marks at an EPUB destination. A mark for a committed path with an escaped form puts one record;
any other mark leaves the writer as it is. -/
namespace Bindery.Epub

open Encryption (Manifest)

@[simp] theorem uri_recordFor (settings : Settings) (m : Mark) (deflated : Bool) (uri : String) :
    (Ledger.recordFor settings m deflated uri).uri = uri := by
  unfold Ledger.recordFor
  cases Ledger.compression? deflated m.size with
  | none => rfl
  | some c => rfl

inductive Marked (w : Writer Ledger) (m : Mark) : Result Unit → Writer Ledger → Prop where
  | unmatched : w.ledger.committed.lookup m.path = none →
      Marked w m (Writer.unmatched w.settings m.path) w
  | unnamed {deflated : Bool} {e : Error} : w.ledger.committed.lookup m.path = some deflated →
      Ledger.reference m.path = .error e → Marked w m (.error e) w
  | recorded {deflated : Bool} {uri : String} :
      w.ledger.committed.lookup m.path = some deflated → UriPath.escaped? m.path = some uri →
      Marked w m (.ok ()) { w with ledger := { w.ledger with
        records := w.ledger.records.put (Ledger.recordFor w.settings m deflated uri) } }

variable {w : Writer Ledger} {m : Mark}

theorem reference_ok {path uri : String} (named : Ledger.reference path = .ok uri) :
    UriPath.escaped? path = some uri ∧ uri ≠ "" := by
  unfold Ledger.reference at named
  split at named
  · rename_i other escaped
    split at named
    · cases named
    · rename_i solid
      cases named
      exact ⟨escaped, solid⟩
  · cases named

theorem reference_of_escaped {path uri : String} (escaped : UriPath.escaped? path = some uri)
    (solid : uri ≠ "") : Ledger.reference path = .ok uri := by
  simp [Ledger.reference, escaped, solid]

theorem reference_of_unnamed {path : String} (unnamed : (UriPath.escaped? path).getD "" = "") :
    Ledger.reference path = .error (.format (.badReference path)) := by
  unfold Ledger.reference
  split
  · rename_i uri escaped
    rw [escaped] at unnamed
    exact if_pos unnamed
  · rfl

theorem mark?_eq (settings : Settings) (m : Mark) (ledger : Ledger) :
    Bindery.Ledger.mark? settings m ledger = Ledger.mark? settings m ledger := rfl

theorem mark_unmatched (absent : w.ledger.committed.lookup m.path = none) :
    (Writer.mark m).perform w = (Writer.unmatched w.settings m.path, w) := by
  rw [Writer.perform_mark, mark?_eq, Ledger.mark?, absent]
  rfl

theorem mark_unnamed {deflated : Bool} {e : Error}
    (committed : w.ledger.committed.lookup m.path = some deflated)
    (unnamed : Ledger.reference m.path = .error e) :
    (Writer.mark m).perform w = (.error e, w) := by
  rw [Writer.perform_mark, mark?_eq, Ledger.mark?, committed, unnamed]
  rfl

theorem mark_committed {deflated : Bool} {uri : String}
    (committed : w.ledger.committed.lookup m.path = some deflated)
    (escaped : UriPath.escaped? m.path = some uri) (solid : uri ≠ "") :
    (Writer.mark m).perform w = (.ok (), { w with ledger := { w.ledger with
      records := w.ledger.records.put (Ledger.recordFor w.settings m deflated uri) } }) := by
  rw [Writer.perform_mark, mark?_eq, Ledger.mark?, committed, reference_of_escaped escaped solid]
  rfl

theorem marked (w : Writer Ledger) (m : Mark) :
    Marked w m ((Writer.mark m).perform w).1 ((Writer.mark m).perform w).2 := by
  cases committed : w.ledger.committed.lookup m.path with
  | none =>
    rw [mark_unmatched committed]
    exact .unmatched committed
  | some deflated =>
    cases named : Ledger.reference m.path with
    | error e =>
      rw [mark_unnamed committed named]
      exact .unnamed committed named
    | ok uri =>
      obtain ⟨escaped, solid⟩ := reference_ok named
      rw [mark_committed committed escaped solid]
      exact .recorded committed escaped

theorem Marked.covered {outcome : Result Unit} {w' : Writer Ledger} (marked : Marked w m outcome w')
    {path : String} (covered : (w.ledger.records.recordFor? path).isSome = true) :
    (w'.ledger.records.recordFor? path).isSome = true := by
  cases marked with
  | unmatched => exact covered
  | unnamed => exact covered
  | recorded => exact Manifest.isSome_recordFor?_put _ covered

theorem Marked.covers {outcome : Result Unit} {w' : Writer Ledger} {deflated : Bool}
    (marked : Marked w m outcome w') (passed : outcome = .ok ())
    (committed : w.ledger.committed.lookup m.path = some deflated) :
    (w'.ledger.records.recordFor? m.path).isSome = true := by
  cases marked with
  | unmatched absent =>
    rw [committed] at absent
    cases absent
  | unnamed => cases passed
  | recorded _ escaped => simp [Manifest.recordFor?_put, escaped]

theorem lookup_commit {draft : Draft} {path : String} (named : draft.path = path)
    (ledger : Ledger) : (Bindery.Ledger.commit draft ledger).committed.lookup path =
      some draft.plaintextDeflated := by
  subst named
  change ((draft.path, draft.plaintextDeflated) :: ledger.committed).lookup draft.path = _
  exact List.lookup_cons_self

end Bindery.Epub
