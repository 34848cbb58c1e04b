import Bindery.Proofs.Epub.Copies
import Bindery.Proofs.Epub.Mark
import Bindery.Proofs.Package.Abandon
import Bindery.Proofs.ReadingOrder.Meaning

/-! Marks at an EPUB destination, whatever was done with it before. What its holder has committed
decides what a mark does: it is taken or refused by the settings, it fails for want of a cipher
reference, or it puts one record and leaves all records of other entries alone. -/
namespace Bindery

open Zip (Method)

/-! ## What the holder of a writer commits -/

def Call.flag (flag : Bool) : Call → Bool
  | deflated said => said
  | _ => flag

/-- What calls say of the plaintext of their entry: the last one that says anything counts. -/
def Call.flagged (calls : List Call) : Bool := calls.foldl flag false

section
variable {σ : Type} [Sink σ]

def Visit.commits? (v : Visit) (s : σ) : Option (String × Bool) :=
  match (Sink.newFile v.path v.type v.method).perform s with
  | (.error _, _) => none
  | (.ok draft, s) =>
    let (_, draft, s) := Call.runAll v.calls draft s
    if v.finishes && ((Sink.commit draft).perform s).1.isOk then some (v.path, Call.flagged v.calls)
    else none

def Resource.commits? (r : Resource) (s : σ) : Option (String × Bool) :=
  match (Sink.newFile r.path r.type r.method).perform s with
  | (.error _, _) => none
  | (.ok draft, s) =>
    match (r.fill draft).perform s with
    | (.error _, _) => none
    | (.ok (whole, _), s) =>
      if ((Sink.commit whole).perform s).1.isOk then some (r.path, false) else none

def Move.commits? : Move → σ → Option (String × Bool)
  | visit v, s => v.commits? s
  | copy r, s => r.commits? s
  | _, _ => none

def Move.commits : List Move → σ → List (String × Bool)
  | [], _ => []
  | move :: moves, s => (move.commits? s).toList ++ commits moves (move.run s).2

/-- What the last commit of a run at a path said of the plaintext there. -/
def Move.latest? (moves : List Move) (s : σ) (path : String) : Option Bool :=
  (commits moves s).reverse.lookup path

end

def Draft.note (draft : Draft) : String × Bool := (draft.path, draft.plaintextDeflated)

namespace Writer

variable {α : Type} [Ledger α]

theorem note_newFile {path type : String} {method : Method} {w w' : Writer α} {draft : Draft}
    (opened : (Sink.newFile path type method : Action (Writer α) Draft) w = .ok draft w') :
    draft.note = (path, false) := by
  obtain ⟨_, _, _, rest⟩ := Action.bind_ok opened
  obtain ⟨_, _, _, last⟩ := Action.bind_ok rest
  cases last
  rfl

theorem note_append {draft made : Draft} {bytes : Bytes} {w w' : Writer α}
    (written : (Sink.append draft bytes : Action (Writer α) Draft) w = .ok made w') :
    made.note = draft.note := by
  obtain ⟨_, _, _, last⟩ := Action.bind_ok written
  cases last
  rfl

theorem note_call (draft : Draft) (call : Call) (w : Writer α) :
    (((call.run draft : Action (Writer α) Draft).perform w).1.toOption.getD draft).note =
      (draft.path, call.flag draft.plaintextDeflated) := by
  cases call with
  | write bytes =>
    cases ran : (Sink.append draft bytes : Action (Writer α) Draft) w with
    | ok made w' =>
      rw [Call.run, Action.perform_of_ok ran]
      exact note_append ran
    | error e w' =>
      rw [Call.run, Action.perform_of_error ran]
      rfl
  | flush =>
    unfold Call.run
    cases ran : (Sink.flush : Action (Writer α) Unit) w with
    | ok _ w' => rw [Action.perform_bind_of_ok ran]; rfl
    | error e w' => rw [Action.perform_bind_of_error ran]; rfl
  | deflated flag => rfl

/-- A call that fails says nothing, so that only the calls themselves count, not what came of
them. -/
theorem note_calls (calls : List Call) (draft : Draft) (w : Writer α) :
    (Call.runAll calls draft w).2.1.note =
      (draft.path, calls.foldl Call.flag draft.plaintextDeflated) := by
  induction calls generalizing draft w with
  | nil => rfl
  | cons call calls ih =>
    obtain ⟨path, flag⟩ := Prod.mk.inj (note_call draft call w)
    have rest := ih (((call.run draft).perform w).1.toOption.getD draft) ((call.run draft).perform w).2
    rw [path, flag] at rest
    exact rest

theorem note_transfer {draft whole : Draft} {source later : Source} {w w' : Writer α}
    (moved : (Resource.transfer draft source : Action (Writer α) (Draft × Source)) w =
      .ok (whole, later) w') : whole.note = draft.note := by
  fun_induction Resource.transfer (σ := Writer α) draft source generalizing w with
  | case1 draft source err found => cases moved
  | case2 draft source found =>
    cases moved
    rfl
  | case3 draft source b part later found ih =>
    obtain ⟨made, v, written, rest⟩ := Action.bind_ok moved
    exact (ih made rest).trans (note_append written)

theorem note_fill {r : Resource} {draft whole : Draft} {later : Source} {w w' : Writer α}
    (filled : r.fill draft w = .ok (whole, later) w') : whole.note = draft.note := by
  obtain ⟨source, v, _, moved⟩ := Action.bind_ok filled
  exact note_transfer moved

end Writer

namespace Epub

open Encryption (Manifest Record)

def standing (w : Writer Ledger) : List (String × Bool) × Settings :=
  (w.ledger.committed, w.settings)

def standingBehind (w : Writer Ledger) (commit : Option (String × Bool)) :
    List (String × Bool) × Settings :=
  (commit.toList ++ w.ledger.committed, w.settings)

theorem blind_standing : Writer.Blind standing := fun _ _ => rfl

variable {w v : Writer Ledger}

theorem standing_commit (same : standing v = standing w) (draft : Draft) :
    standing ((Sink.commit draft).perform v).2 = standingBehind w
      (if ((Sink.commit draft).perform v).1.isOk then some draft.note else none) := by
  obtain ⟨entries, settings⟩ := Prod.mk.inj same
  rcases Writer.commit_cases v draft with ⟨_, ran⟩ | ⟨_, e, ran⟩
  · have performed : (Sink.commit draft).perform v = _ := Action.perform_of_ok ran
    rw [performed, standingBehind, ← entries, ← settings]
    rfl
  · have performed : (Sink.commit draft).perform v = _ := Action.perform_of_error ran
    rw [performed, same]
    rfl

theorem standing_visit (visit : Visit) (w : Writer Ledger) :
    standing (visit.run w).2 = standingBehind w (visit.commits? w) := by
  have kept := Writer.keeps_newFile blind_standing visit.path visit.type visit.method w
  unfold Visit.run Visit.commits?
  cases opened : (Sink.newFile visit.path visit.type visit.method :
      Action (Writer Ledger) Draft) w with
  | error e w' =>
    rw [Action.perform_of_error opened] at kept ⊢
    exact kept
  | ok draft w' =>
    rw [Action.perform_of_ok opened] at kept ⊢
    obtain ⟨path, flag⟩ := Prod.mk.inj (Writer.note_newFile opened)
    have called := (Writer.keeps_calls blind_standing visit.calls draft w').trans kept
    have note := Writer.note_calls visit.calls draft w'
    rw [path, flag] at note
    unfold Visit.ending
    cases visit.finishes with
    | false => exact called
    | true =>
      have ended := standing_commit called (Call.runAll visit.calls draft w').2.1
      rw [note] at ended
      exact ended

theorem standing_copy (r : Resource) (w : Writer Ledger) :
    standing (r.copyTo.perform w).2 = standingBehind w (r.commits? w) := by
  have kept := Writer.keeps_newFile blind_standing r.path r.type r.method w
  unfold Resource.commits?
  rcases Writer.copy_cases r w with ⟨e, v, opened, _, ran⟩ | ⟨draft, v, opened, filled⟩
  · rw [Action.perform_of_error opened] at kept ⊢
    rw [ran]
    exact kept
  · rw [Action.perform_of_ok opened] at kept ⊢
    have filling := (Writer.keeps_fill blind_standing r draft v).trans kept
    rcases filled with ⟨e, u, failed, _, ran⟩ | ⟨whole, source, u, moved, _, ran⟩
    · simp only [Action.perform_of_error failed] at filling ⊢
      rw [ran]
      exact filling
    · simp only [Action.perform_of_ok moved] at filling ⊢
      have ended := standing_commit filling whole
      rw [Writer.note_fill moved, Writer.note_newFile opened] at ended
      rw [ran]
      exact ended

theorem Marked.standing {m : Mark} {outcome : Result Unit} (marked : Marked w m outcome v) :
    standing v = standing w := by
  cases marked with
  | unmatched => rfl
  | unnamed => rfl
  | recorded => rfl

theorem standing_move (move : Move) (w : Writer Ledger) :
    standing (move.run w).2 = standingBehind w (move.commits? w) := by
  cases move with
  | visit v => exact standing_visit v w
  | copy r => exact standing_copy r w
  | mark m => exact (marked w m).standing
  | write bytes => exact Writer.keeps_onOutput blind_standing (Zip.Output.write bytes) w
  | flush => exact Writer.keeps_onOutput blind_standing Zip.Output.flush w

theorem standing_moves (moves : List Move) (w : Writer Ledger) :
    standing (Move.runAll moves w).2 =
      ((Move.commits moves w).reverse ++ w.ledger.committed, w.settings) := by
  induction moves generalizing w with
  | nil => rfl
  | cons move moves ih =>
    obtain ⟨entries, settings⟩ := Prod.mk.inj (standing_move move w)
    have rest := ih (move.run w).2
    rw [entries, settings] at rest
    refine rest.trans ?_
    rw [Move.commits, List.reverse_append, List.append_assoc]
    cases move.commits? w with
    | none => rfl
    | some entry => rfl

/-! ## Marks behind a run -/

def markedRecord (settings : Settings) (m : Mark) (deflated : Bool) (uri : String) : Record where
  algorithm := some m.algorithm
  keyInfo := some { retrieval := some ⟨settings.keyUri, settings.keyType⟩ }
  uri := uri
  properties :=
    if deflated then some [some ⟨8, m.size⟩]
    else if 0 < m.size then some [some ⟨0, m.size⟩]
    else none

theorem recordFor_eq_markedRecord (settings : Settings) (m : Mark) (deflated : Bool)
    (uri : String) : Ledger.recordFor settings m deflated uri =
      markedRecord settings m deflated uri := by
  unfold Ledger.recordFor Ledger.compression? markedRecord
  cases deflated with
  | true => rfl
  | false => by_cases sized : 0 < m.size <;> simp [sized] <;> rfl

/-- What has become of records behind one that is found for a path. -/
structure Recorded (before after : Manifest) (path : String) (record : Record) : Prop where
  found : after.recordFor? path = some record
  /-- The records with another cipher reference, each as it was and in their order. -/
  others : after.filter (·.uri ≠ record.uri) = before.filter (·.uri ≠ record.uri)
  length : after.length =
    if record.uri ∈ before.map Record.uri then before.length else before.length + 1
  distinct : (before.map Record.uri).Nodup → (after.map Record.uri).Nodup

theorem recorded_put {record : Record} {path : String}
    (escaped : UriPath.escaped? path = some record.uri) (records : Manifest) :
    Recorded records (records.put record) path record where
  found := by rw [Manifest.recordFor?_put, if_pos escaped]
  others := Manifest.filter_put record records
  length := Manifest.length_put record records
  distinct := Manifest.nodup_put record

/-- What comes of a mark, by what the last commit at its path said of the plaintext, if there was
one. -/
structure MarkEffect (settings : Settings) (latest : Option Bool) (w : Writer Ledger) (m : Mark)
    (outcome : Result Unit) (w' : Writer Ledger) : Prop where
  absent : latest = none → w' = w ∧ outcome = match settings.unmatched with
    | .ignore => .ok ()
    | .reject => .error (.sequence (.unmatched m.path))
  unnamed : ∀ deflated, latest = some deflated → (UriPath.escaped? m.path).getD "" = "" →
    w' = w ∧ outcome = .error (.format (.badReference m.path))
  recorded : ∀ deflated uri, latest = some deflated → UriPath.escaped? m.path = some uri →
    uri ≠ "" → outcome = .ok () ∧ ∃ records,
      w' = { w with ledger := { w.ledger with records } } ∧
      Recorded w.ledger.records records m.path (markedRecord settings m deflated uri)

theorem markEffect_of_lookup (w : Writer Ledger) (m : Mark) :
    MarkEffect w.settings (w.ledger.committed.lookup m.path) w m
      ((Writer.mark m).perform w).1 ((Writer.mark m).perform w).2 where
  absent := by
    intro absent
    rw [mark_unmatched absent]
    exact ⟨rfl, rfl⟩
  unnamed := by
    intro deflated committed unnamed
    rw [mark_unnamed committed (reference_of_unnamed unnamed)]
    exact ⟨rfl, rfl⟩
  recorded := by
    intro deflated uri committed escaped solid
    rw [mark_committed committed escaped solid, recordFor_eq_markedRecord]
    exact ⟨rfl, _, rfl, recorded_put escaped _⟩

/-- A mark behind any run from a new destination of a container: what it does depends on the last
commit of the run at its path, on the cipher reference of the path and on the settings. -/
theorem mark_effect {p : Package} {device : Device} {start : Writer Ledger}
    (started : p.newWriter device = .ok start) (moves : List Move) (m : Mark) :
    MarkEffect p.settings (Move.latest? moves start m.path) (Move.runAll moves start).2 m
      ((Writer.mark m).perform (Move.runAll moves start).2).1
      ((Writer.mark m).perform (Move.runAll moves start).2).2 := by
  obtain rfl := Package.newWriter_eq started
  obtain ⟨committed, settings⟩ := Prod.mk.inj (standing_moves moves (p.destination device))
  have effect := markEffect_of_lookup (Move.runAll moves (p.destination device)).2 m
  have fresh : (p.destination device).ledger.committed = [] := rfl
  rw [committed, settings, fresh, List.append_nil] at effect
  exact effect

/-- A page whose plaintext was deflated, and one that is given up. -/
def deflatedPage : List Move :=
  [.visit { Writer.pageVisit "a.xhtml" true with calls := [.write [0x6f], .deflated true] },
    .visit (Writer.pageVisit "b.xhtml" false)]

/-- A mark for the first page replaces its record; one for the second page is passed over. -/
theorem mark_effect_deflatedPage :
    book.newWriter {} = .ok bookWriter ∧
      Recorded book.records
        ((Writer.mark (ReadingOrder.markFor "a.xhtml" "basic")).perform
          (Move.runAll deflatedPage bookWriter).2).2.ledger.records "a.xhtml"
        (markedRecord {} (ReadingOrder.markFor "a.xhtml" "basic") true "a.xhtml") ∧
      (Writer.mark (ReadingOrder.markFor "b.xhtml" "basic")).perform
        (Move.runAll deflatedPage bookWriter).2 =
          (.ok (), (Move.runAll deflatedPage bookWriter).2) := by
  refine ⟨started_book, ?_, ?_⟩
  · obtain ⟨_, records, same, recorded⟩ := (mark_effect started_book deflatedPage
      (ReadingOrder.markFor "a.xhtml" "basic")).recorded true "a.xhtml" rfl rfl (by decide)
    rw [same]
    exact recorded
  · obtain ⟨same, outcome⟩ := (mark_effect started_book deflatedPage
      (ReadingOrder.markFor "b.xhtml" "basic")).absent rfl
    exact Prod.ext outcome same

end Epub
end Bindery
