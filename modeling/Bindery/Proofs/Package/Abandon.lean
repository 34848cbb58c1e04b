import Bindery.Epub.Ledger
import Bindery.Proofs.Package.Run
import Bindery.ReadingOrder.Ledger

/-! Entries that are given up. The holder of a writer may do anything with it, and any of it may
fail; but from the first entry on that was opened and not brought to its commit, the writer takes no
entry and writes no document, and it says why. Without such an entry it never says so. -/
namespace Bindery

open Zip (Method Output)

inductive Call where
  | write (bytes : Bytes)
  | flush
  | deflated (flag : Bool)

/-- The opening of an entry, and all that is called on it. -/
structure Visit where
  path : String
  type : String
  method : Method
  calls : List Call
  finishes : Bool

/-- What the holder of a writer does with it. -/
inductive Move where
  | visit (v : Visit)
  | copy (r : Resource)
  | mark (m : Mark)
  | write (bytes : Bytes)
  | flush

section
variable {σ : Type} [Sink σ]

def Call.run (draft : Draft) : Call → Action σ Draft
  | write bytes => Sink.append draft bytes
  | flush => do
    Sink.flush
    return draft
  | deflated flag => return { draft with plaintextDeflated := flag }

/-- Calls one after the other: what came of each, and the draft behind them. One that fails does
not end them. -/
def Call.runAll : List Call → Draft → σ → List (Result Unit) × Draft × σ
  | [], draft, s => ([], draft, s)
  | call :: calls, draft, s =>
    let (outcome, s) := (call.run draft).perform s
    let (outcomes, draft, s) := runAll calls (outcome.toOption.getD draft) s
    (outcome.map (fun _ => ()) :: outcomes, draft, s)

def Visit.ending (v : Visit) (draft : Draft) : Action σ Unit :=
  if v.finishes then Sink.commit draft else modify (Sink.abandon draft)

def Visit.run (v : Visit) (s : σ) : List (Result Unit) × σ :=
  match (Sink.newFile v.path v.type v.method).perform s with
  | (.error e, s) => ([.error e], s)
  | (.ok draft, s) =>
    let (outcomes, draft, s) := Call.runAll v.calls draft s
    let (ended, s) := (v.ending draft).perform s
    (outcomes ++ [ended], s)

def alone (act : Action σ Unit) (s : σ) : List (Result Unit) × σ :=
  let (outcome, s) := act.perform s
  ([outcome], s)

def Move.run : Move → σ → List (Result Unit) × σ
  | visit v => v.run
  | copy r => alone r.copyTo
  | mark m => alone (Sink.mark m)
  | write bytes => alone (Sink.write bytes)
  | flush => alone Sink.flush

def Move.runAll : List Move → σ → List (Result Unit) × σ
  | [], s => ([], s)
  | move :: moves, s =>
    let (first, s) := move.run s
    let (rest, s) := runAll moves s
    (first ++ rest, s)

def Visit.givesUp? (v : Visit) (s : σ) : Option String :=
  if v.finishes then none
  else ((Sink.newFile v.path v.type v.method).perform s).1.toOption.map fun _ => v.path

def Resource.fill (r : Resource) (draft : Draft) : Action σ (Draft × Source) := do
  transfer draft (← Action.ofResult r.source)

def Resource.givesUp? (r : Resource) (s : σ) : Option String :=
  match (Sink.newFile r.path r.type r.method).perform s with
  | (.error _, _) => none
  | (.ok draft, s) => if ((r.fill draft).perform s).1.isOk then none else some r.path

def Move.givesUp? : Move → σ → Option String
  | visit v, s => v.givesUp? s
  | copy r, s => r.givesUp? s
  | _, _ => none

def Move.firstGivenUp? : List Move → σ → Option String
  | [], _ => none
  | move :: moves, s => (move.givesUp? s).or (firstGivenUp? moves (move.run s).2)

end

def IsAbandonment (e : Error) : Prop := ∃ path, e = .sequence (.abandoned path)

theorem not_isAbandonment_stream (fault : StreamFault) : ¬ IsAbandonment (.stream fault) := nofun

theorem not_isAbandonment_format (fault : FormatFault) : ¬ IsAbandonment (.format fault) := nofun

def Ledger.Spares (α : Type) [Ledger α] : Prop :=
  ∀ settings m (ledger : α) e, mark? settings m ledger = some (.error e) → ¬ IsAbandonment e

theorem ReadingOrder.spares_ledger : Ledger.Spares ReadingOrder.Ledger := by
  intro settings m ledger e refused
  obtain ⟨_, _, same⟩ := Option.map_eq_some_iff.mp refused
  cases same

theorem Epub.spares_ledger : Ledger.Spares Epub.Ledger := by
  intro settings m ledger e refused
  obtain ⟨deflated, _, same⟩ := Option.map_eq_some_iff.mp refused
  cases named : Ledger.reference m.path with
  | ok uri =>
    rw [bind_of_eq_ok named] at same
    cases same
  | error fault =>
    rw [named] at same
    cases same
    unfold Ledger.reference at named
    split at named
    · split at named
      · cases named
        exact not_isAbandonment_format _
      · cases named
    · cases named
      exact not_isAbandonment_format _

/-! ## The archive under construction never fails for the sake of an entry -/

namespace Zip.Output

theorem avoids_emit (bytes : Bytes) : (emit bytes).Avoids IsAbandonment := by
  intro o e failed
  rcases written : o.device.write bytes with ⟨device, fault | _⟩
  · have ran : emit bytes o = .error (.stream fault) { o with device } := by
      simp only [emit, written]
    rw [Action.perform_of_error ran] at failed
    cases failed
    exact not_isAbandonment_stream fault
  · have ran : emit bytes o = .ok () { o with device } := by simp only [emit, written]
    rw [Action.perform_of_ok ran] at failed
    cases failed

theorem avoids_header (name : String) : (header name).Avoids IsAbandonment := by
  have named : ((emit (utf8Bytes name)).onFault (push (.headless name))).Avoids IsAbandonment :=
    (avoids_emit _).onFault
  have rest := (avoids_emit localSignature).bind fun _ => named
  refine (Action.avoids_modify _).bind fun _ => Action.avoids_get.bind fun o => ?_
  split
  · refine (Action.avoids_ofResult ?_).bind fun _ => rest
    rintro _ ⟨⟩
    exact not_isAbandonment_format _
  · exact rest

theorem avoids_start (name : String) (method : Method) :
    (start name method).Avoids IsAbandonment :=
  (avoids_header name).bind fun _ => Action.avoids_modify _

theorem avoids_write (bytes : Bytes) : (write bytes).Avoids IsAbandonment := by
  refine Action.avoids_get.bind fun o => ?_
  split
  · rintro _ _ ⟨⟩
    exact not_isAbandonment_stream _
  · split
    · exact (avoids_emit bytes).bind fun _ => Action.avoids_modify _
    · exact Action.avoids_modify _

theorem avoids_flush : flush.Avoids IsAbandonment := by
  refine Action.avoids_get.bind fun o => Action.avoids_ofResult fun e failed => ?_
  cases flushed : o.device.flush with
  | ok =>
    rw [flushed] at failed
    cases failed
  | error fault =>
    rw [flushed] at failed
    cases failed
    exact not_isAbandonment_stream fault

theorem avoids_finish : finish.Avoids IsAbandonment := by
  have central (slot : Slot) : (centralHeader slot).Avoids IsAbandonment :=
    (avoids_emit _).bind fun _ => avoids_emit _
  exact (Action.avoids_modify _).bind fun _ => Action.avoids_get.bind fun o =>
    (Action.avoids_forM central o.slots).bind fun _ => avoids_emit _

end Zip.Output

namespace Writer

variable {α : Type}

/-! ## What the calls on an entry leave alone -/

def Blind {γ : Type} (view : Writer α → γ) : Prop :=
  ∀ w output, view { w with output } = view w

theorem blind_abandoned : Blind (abandoned : Writer α → Option String) := fun _ _ => rfl

section
variable {γ : Type} {view : Writer α → γ}

theorem keeps_onOutput (blind : Blind view) {β : Type} (act : Action Output β) :
    (onOutput act : Action (Writer α) β).Keeps view :=
  Action.keeps_within blind

variable [Ledger α]

theorem keeps_newFile (blind : Blind view) (path type : String) (method : Method) :
    (Sink.newFile path type method : Action (Writer α) Draft).Keeps view := by
  have intact : (checkIntact : Action (Writer α) Unit).Keeps view := by
    refine Action.keeps_get.bind fun w => ?_
    split
    · exact Action.keeps_ofResult (.error _)
    · exact Action.keeps_pure _
  exact intact.bind fun _ => (keeps_onOutput blind _).bind fun _ => Action.keeps_pure _

theorem keeps_append (blind : Blind view) (draft : Draft) (bytes : Bytes) :
    (Sink.append draft bytes : Action (Writer α) Draft).Keeps view :=
  Action.Keeps.bind (keeps_onOutput blind _) fun _ => Action.keeps_pure _

theorem keeps_transfer (blind : Blind view) (draft : Draft) (source : Source) :
    (Resource.transfer draft source : Action (Writer α) (Draft × Source)).Keeps view := by
  fun_induction Resource.transfer (σ := Writer α) draft source with
  | case1 draft source err later found => exact Action.keeps_ofResult (.error err)
  | case2 draft source later found => exact Action.keeps_pure _
  | case3 draft source b part later found ih => exact (keeps_append blind _ _).bind ih

theorem keeps_call (blind : Blind view) (draft : Draft) (call : Call) :
    (call.run draft : Action (Writer α) Draft).Keeps view := by
  cases call with
  | write bytes => exact keeps_append blind draft bytes
  | flush => exact Action.Keeps.bind (keeps_onOutput blind _) fun _ => Action.keeps_pure _
  | deflated flag => exact Action.keeps_pure _

theorem keeps_calls (blind : Blind view) (calls : List Call) (draft : Draft) (w : Writer α) :
    view (Call.runAll calls draft w).2.2 = view w := by
  induction calls generalizing draft w with
  | nil => rfl
  | cons call calls ih => exact (ih _ _).trans (keeps_call blind draft call w)

theorem keeps_fill (blind : Blind view) (r : Resource) (draft : Draft) :
    (r.fill draft : Action (Writer α) (Draft × Source)).Keeps view :=
  (Action.keeps_ofResult r.source).bind fun source => keeps_transfer blind draft source

end

/-! ## What a move does to the record of the first abandoned entry -/

theorem avoids_onOutput {β : Type} {act : Action Output β} (avoids : act.Avoids IsAbandonment) :
    (onOutput act : Action (Writer α) β).Avoids IsAbandonment :=
  avoids.within

theorem abandoned_abandon (draft : Draft) (w : Writer α) :
    (w.abandon draft).abandoned = w.abandoned.or (some draft.path) := by
  cases given : w.abandoned with
  | none => simp [abandon, given]
  | some first => simp [abandon, given]

variable [Ledger α]

theorem keeps_commit (draft : Draft) :
    (Sink.commit draft : Action (Writer α) Unit).Keeps abandoned :=
  Action.Keeps.bind (keeps_onOutput blind_abandoned _) fun _ _ => rfl

theorem path_call (draft : Draft) (call : Call) (w : Writer α) :
    (((call.run draft : Action (Writer α) Draft).perform w).1.toOption.getD draft).path =
      draft.path := by
  cases call with
  | write bytes =>
    unfold Call.run Sink.append
    cases ran : (Sink.write bytes : Action (Writer α) Unit) w with
    | ok _ w' => rw [Action.perform_bind_of_ok ran]; rfl
    | error e w' => rw [Action.perform_bind_of_error ran]; rfl
  | flush =>
    unfold Call.run
    cases ran : (Sink.flush : Action (Writer α) Unit) w with
    | ok _ w' => rw [Action.perform_bind_of_ok ran]; rfl
    | error e w' => rw [Action.perform_bind_of_error ran]; rfl
  | deflated flag => rfl

theorem path_calls (calls : List Call) (draft : Draft) (w : Writer α) :
    (Call.runAll calls draft w).2.1.path = draft.path := by
  induction calls generalizing draft w with
  | nil => rfl
  | cons call calls ih => exact (ih _ _).trans (path_call draft call w)

theorem path_newFile {path type : String} {method : Method} {w w' : Writer α} {draft : Draft}
    (opened : (Sink.newFile path type method : Action (Writer α) Draft) w = .ok draft w') :
    draft.path = path := by
  obtain ⟨_, _, _, rest⟩ := Action.bind_ok opened
  obtain ⟨_, _, _, last⟩ := Action.bind_ok rest
  cases last
  rfl

theorem abandoned_ending (v : Visit) (draft : Draft) (w : Writer α) :
    ((v.ending draft).perform w).2.abandoned =
      w.abandoned.or (if v.finishes then none else some draft.path) := by
  unfold Visit.ending
  cases v.finishes with
  | true => exact (keeps_commit draft w).trans Option.or_none.symm
  | false => exact abandoned_abandon draft w

theorem abandoned_visit (v : Visit) (w : Writer α) :
    (v.run w).2.abandoned = w.abandoned.or (v.givesUp? w) := by
  have kept := keeps_newFile blind_abandoned v.path v.type v.method w
  unfold Visit.run Visit.givesUp?
  cases opened : (Sink.newFile v.path v.type v.method : Action (Writer α) Draft) w with
  | error e w' =>
    rw [Action.perform_of_error opened] at kept ⊢
    simpa [Except.toOption] using kept
  | ok draft w' =>
    rw [Action.perform_of_ok opened] at kept ⊢
    have ended := abandoned_ending v (Call.runAll v.calls draft w').2.1
      (Call.runAll v.calls draft w').2.2
    rw [keeps_calls blind_abandoned, path_calls, path_newFile opened, kept] at ended
    exact ended

theorem copy_cases (r : Resource) (w : Writer α) :
    (∃ e v, (Sink.newFile r.path r.type r.method : Action (Writer α) Draft) w = .error e v ∧
      r.givesUp? w = none ∧ r.copyTo.perform w = (.error e, v)) ∨
    ∃ draft v, (Sink.newFile r.path r.type r.method : Action (Writer α) Draft) w = .ok draft v ∧
      ((∃ e u, r.fill draft v = .error e u ∧ r.givesUp? w = some r.path ∧
          r.copyTo.perform w = (.error e, u.abandon draft)) ∨
        ∃ whole source u, r.fill draft v = .ok (whole, source) u ∧ r.givesUp? w = none ∧
          r.copyTo.perform w = (source.close *> ((Sink.commit whole).perform u).1,
            ((Sink.commit whole).perform u).2)) := by
  unfold Resource.givesUp? Resource.copyTo
  cases opened : (Sink.newFile r.path r.type r.method : Action (Writer α) Draft) w with
  | error e v =>
    rw [Action.perform_of_error opened, Action.perform_bind_of_error opened]
    exact .inl ⟨e, v, rfl, rfl, rfl⟩
  | ok draft v =>
    rw [Action.perform_of_ok opened, Action.perform_bind_of_ok opened]
    refine .inr ⟨draft, v, rfl, ?_⟩
    cases ran : r.fill draft v with
    | error e u =>
      have guarded : Sink.guarded draft (r.fill draft) v = .error e (u.abandon draft) :=
        Action.onFault_of_error ran
      refine .inl ⟨e, u, rfl, ?_, Action.perform_bind_of_error guarded⟩
      simp only [Action.perform_of_error ran]
      rfl
    | ok made u =>
      obtain ⟨whole, source⟩ := made
      have guarded : Sink.guarded draft (r.fill draft) v = .ok (whole, source) u :=
        Action.onFault_of_ok ran
      refine .inr ⟨whole, source, u, rfl, ?_,
        (Action.perform_bind_of_ok guarded).trans (perform_copied u whole source)⟩
      simp only [Action.perform_of_ok ran]
      rfl

theorem abandoned_copy (r : Resource) (w : Writer α) :
    (r.copyTo.perform w).2.abandoned = w.abandoned.or (r.givesUp? w) := by
  have kept := keeps_newFile blind_abandoned r.path r.type r.method w
  rcases copy_cases r w with ⟨e, v, opened, none, ran⟩ | ⟨draft, v, opened, filled⟩
  · rw [Action.perform_of_error opened] at kept
    rw [ran, none, Option.or_none]
    exact kept
  · rw [Action.perform_of_ok opened] at kept
    have filling := keeps_fill blind_abandoned r draft v
    rcases filled with ⟨e, u, failed, given, ran⟩ | ⟨whole, source, u, moved, none, ran⟩
    · rw [Action.perform_of_error failed] at filling
      rw [ran, given, abandoned_abandon, filling, kept, path_newFile opened]
    · rw [Action.perform_of_ok moved] at filling
      rw [ran, none, Option.or_none]
      exact (keeps_commit whole u).trans (filling.trans kept)

/-- What is remembered behind a move: the first entry that was given up, be it before or in it. -/
theorem abandoned_move (move : Move) (w : Writer α) :
    (move.run w).2.abandoned = w.abandoned.or (move.givesUp? w) := by
  cases move with
  | visit v => exact abandoned_visit v w
  | copy r => exact abandoned_copy r w
  | mark m => exact (abandoned_mark w m).trans Option.or_none.symm
  | write bytes => exact (keeps_onOutput blind_abandoned (Output.write bytes) w).trans Option.or_none.symm
  | flush => exact (keeps_onOutput blind_abandoned Output.flush w).trans Option.or_none.symm

theorem abandoned_moves (moves : List Move) (w : Writer α) :
    (Move.runAll moves w).2.abandoned = w.abandoned.or (Move.firstGivenUp? moves w) := by
  induction moves generalizing w with
  | nil => exact Option.or_none.symm
  | cons move moves ih =>
    have rest := ih (move.run w).2
    rw [abandoned_move, Option.or_assoc] at rest
    exact rest

/-! ## What is reported while nothing has been abandoned -/

theorem avoids_commit (draft : Draft) :
    (Sink.commit draft : Action (Writer α) Unit).Avoids IsAbandonment :=
  Action.Avoids.bind (avoids_onOutput Output.avoids_flush) fun _ => Action.avoids_modify _

theorem avoids_call (draft : Draft) (call : Call) :
    (call.run draft : Action (Writer α) Draft).Avoids IsAbandonment := by
  cases call with
  | write bytes =>
    exact Action.Avoids.bind (avoids_onOutput (Output.avoids_write bytes)) fun _ =>
      Action.avoids_pure _
  | flush =>
    exact Action.Avoids.bind (avoids_onOutput Output.avoids_flush) fun _ => Action.avoids_pure _
  | deflated flag => exact Action.avoids_pure _

def Blameless {β : Type} (outcome : Result β) : Prop :=
  ∀ e, outcome = .error e → ¬ IsAbandonment e

theorem Blameless.map {β γ : Type} {outcome : Result β} (blameless : Blameless outcome)
    (change : β → γ) : Blameless (outcome.map change) := by
  cases outcome with
  | ok b => exact nofun
  | error e =>
    rintro _ ⟨⟩
    exact blameless e rfl

theorem blameless_calls (calls : List Call) (draft : Draft) (w : Writer α) :
    ∀ outcome ∈ (Call.runAll calls draft w).1, Blameless outcome := by
  induction calls generalizing draft w with
  | nil => exact nofun
  | cons call calls ih =>
    have here : Blameless ((call.run draft : Action (Writer α) Draft).perform w).1 :=
      avoids_call draft call w
    exact List.forall_mem_cons.mpr ⟨here.map _, ih _ _⟩

variable {w : Writer α}

theorem newFile_blameless (intact : w.abandoned = none) {path type : String} {method : Method}
    {e : Error} {v : Writer α}
    (failed : (Sink.newFile path type method : Action (Writer α) Draft) w = .error e v) :
    ¬ IsAbandonment e := by
  have opens : (onOutput (Output.start path method) >>= fun _ =>
      pure { path, type, method } : Action (Writer α) Draft).Avoids IsAbandonment :=
    (avoids_onOutput (Output.avoids_start path method)).bind fun _ => Action.avoids_pure _
  have same : (Sink.newFile path type method : Action (Writer α) Draft) w = _ :=
    Action.bind_of_ok (checkIntact_of_intact intact)
  rw [same] at failed
  exact opens w e (by rw [Action.perform_of_error failed])

theorem blameless_visit (intact : w.abandoned = none) (v : Visit) :
    ∀ outcome ∈ (v.run w).1, Blameless outcome := by
  unfold Visit.run
  cases opened : (Sink.newFile v.path v.type v.method : Action (Writer α) Draft) w with
  | error e w' =>
    rw [Action.perform_of_error opened]
    refine List.forall_mem_singleton.mpr fun _ same => ?_
    cases same
    exact newFile_blameless intact opened
  | ok draft w' =>
    rw [Action.perform_of_ok opened]
    refine List.forall_mem_append.mpr ⟨blameless_calls v.calls draft w', ?_⟩
    refine List.forall_mem_singleton.mpr ?_
    have ends (d : Draft) : (v.ending d : Action (Writer α) Unit).Avoids IsAbandonment := by
      unfold Visit.ending
      cases v.finishes with
      | true => exact avoids_commit d
      | false => exact Action.avoids_modify _
    exact ends _ _

theorem blameless_copy (intact : w.abandoned = none) {r : Resource} (kept : r.givesUp? w = none) :
    Blameless (r.copyTo.perform w).1 := by
  rcases copy_cases r w with ⟨e, v, opened, _, ran⟩ | ⟨draft, v, opened, filled⟩
  · rw [ran]
    rintro _ ⟨⟩
    exact newFile_blameless intact opened
  · rcases filled with ⟨e, u, _, given, _⟩ | ⟨whole, source, u, _, _, ran⟩
    · rw [kept] at given
      cases given
    · rw [ran]
      intro e failed
      cases closes : source.close with
      | error fault =>
        rw [closes] at failed
        cases failed
        unfold Source.close at closes
        split at closes
        · cases closes
          exact not_isAbandonment_stream _
        · cases closes
      | ok =>
        rw [closes] at failed
        exact avoids_commit whole u e failed

theorem blameless_mark (spares : Ledger.Spares α) (w : Writer α) (m : Mark) :
    Blameless ((mark m).perform w).1 := by
  rw [perform_mark]
  intro e failed
  cases recorded : Ledger.mark? w.settings m w.ledger with
  | none =>
    rw [recorded] at failed
    have failed : unmatched w.settings m.path = .error e := failed
    unfold unmatched at failed
    split at failed
    · cases failed
    · cases failed
      exact nofun
  | some result =>
    rw [recorded] at failed
    cases result with
    | ok ledger => cases failed
    | error e' =>
      cases failed
      exact spares _ _ _ _ recorded

theorem blameless_move (spares : Ledger.Spares α) (intact : w.abandoned = none) {move : Move}
    (kept : move.givesUp? w = none) : ∀ outcome ∈ (move.run w).1, Blameless outcome := by
  cases move with
  | visit v => exact blameless_visit intact v
  | copy r => exact List.forall_mem_singleton.mpr (blameless_copy intact kept)
  | mark m => exact List.forall_mem_singleton.mpr (blameless_mark spares w m)
  | write bytes =>
    exact List.forall_mem_singleton.mpr (avoids_onOutput (Output.avoids_write bytes) w)
  | flush => exact List.forall_mem_singleton.mpr (avoids_onOutput Output.avoids_flush w)

theorem blameless_moves (spares : Ledger.Spares α) (moves : List Move) (intact : w.abandoned = none)
    (kept : Move.firstGivenUp? moves w = none) :
    ∀ outcome ∈ (Move.runAll moves w).1, Blameless outcome := by
  induction moves generalizing w with
  | nil => exact nofun
  | cons move moves ih =>
    obtain ⟨here, rest⟩ := Option.or_eq_none_iff.mp kept
    have later : (move.run w).2.abandoned = none := by rw [abandoned_move, intact, here]; rfl
    exact List.forall_mem_append.mpr ⟨blameless_move spares intact here, ih later rest⟩

/-- A writer that has abandoned nothing is not closed with the blame for it. -/
theorem blameless_close (intact : w.abandoned = none) : Blameless w.close.outcome := by
  have got : (get : Action (Writer α) (Writer α)) w = .ok w w := rfl
  have documented : Blameless (writeDocument.perform w).1 := by
    unfold writeDocument
    rw [Action.perform_bind_of_ok (checkIntact_of_intact intact), Action.perform_bind_of_ok got]
    cases Ledger.document? w.ledger with
    | none => exact nofun
    | some d =>
      refine avoids_onOutput ((Output.avoids_start _ _).bind fun _ =>
        (Output.avoids_write _).bind fun _ => ?_) w
      split
      · exact Output.avoids_flush
      · exact Action.avoids_pure _
  intro e failed
  unfold close at failed
  cases ran : (writeDocument.perform w).1 with
  | error e' =>
    simp only [ran] at failed
    cases failed
    exact documented e ran
  | ok =>
    simp only [ran] at failed
    exact Output.avoids_finish _ e failed

/-! ## What is reported behind an abandoned entry -/

/-- A writer that takes no entry and writes no document for the sake of an abandoned entry. -/
structure Refuses (w : Writer α) (first : String) : Prop where
  newFile : ∀ path type method, (Sink.newFile path type method : Action (Writer α) Draft) w =
    .error (.sequence (.abandoned first)) w
  copy : ∀ r : Resource, r.copyTo w = .error (.sequence (.abandoned first)) w
  close : w.close = {
    outcome := .error (.sequence (.abandoned first))
    archive := if (Output.finish.perform w.output).1.isOk then w.output.settle.members? else none }

theorem refuses_of_abandoned {first : String} (given : w.abandoned = some first) :
    w.Refuses first := by
  have refused (path type : String) (method : Method) :
      (Sink.newFile path type method : Action (Writer α) Draft) w =
        .error (.sequence (.abandoned first)) w :=
    Action.bind_of_error (checkIntact_of_abandoned given)
  refine ⟨refused, fun r => Action.bind_of_error (refused _ _ _), ?_⟩
  have unwritten : (writeDocument : Action (Writer α) Unit) w =
      .error (.sequence (.abandoned first)) w :=
    Action.bind_of_error (checkIntact_of_abandoned given)
  unfold close
  rw [Action.perform_of_error unwritten]
  cases ended : Output.finish w.output with
  | error e o => simp [Action.perform_of_error ended, Except.isOk, Except.toBool]; rfl
  | ok _ o =>
    obtain ⟨rfl, _⟩ := Output.finish_ok ended
    simp [Action.perform_of_ok ended, Except.isOk, Except.toBool]
    rfl

/-- What a run from `w` on leads to, by the first entry that is given up in it. -/
structure Accounted (w : Writer α) (moves : List Move) : Prop where
  given : ∀ first, Move.firstGivenUp? moves w = some first →
    (Move.runAll moves w).2.Refuses first
  kept : Move.firstGivenUp? moves w = none →
    (∀ outcome ∈ (Move.runAll moves w).1, Blameless outcome) ∧
      Blameless (Move.runAll moves w).2.close.outcome

theorem accounted_of_spares (spares : Ledger.Spares α) (intact : w.abandoned = none)
    (moves : List Move) : w.Accounted moves where
  given := by
    intro first given
    apply refuses_of_abandoned
    rw [abandoned_moves, intact, given]
    rfl
  kept := by
    intro kept
    refine ⟨blameless_moves spares moves intact kept, blameless_close ?_⟩
    rw [abandoned_moves, intact, kept]
    rfl

/-- Of both kinds of writers, on any device: in a run of any moves the first entry that is given up
poisons the writer for good, and without such an entry nothing is said of one. -/
theorem abandonment_is_final :
    (∀ (w : Writer ReadingOrder.Ledger) (moves : List Move), w.abandoned = none →
      w.Accounted moves) ∧
    ∀ (w : Writer Epub.Ledger) (moves : List Move), w.abandoned = none → w.Accounted moves :=
  ⟨fun _ moves intact => accounted_of_spares ReadingOrder.spares_ledger intact moves,
    fun _ moves intact => accounted_of_spares Epub.spares_ledger intact moves⟩

def pageVisit (path : String) (finishes : Bool) : Visit where
  path := path
  type := "text/html"
  method := .stored
  calls := [.write [0x6f], .flush]
  finishes := finishes

def droppedPage : List Move :=
  [.visit (pageVisit "a.html" true), .visit (pageVisit "b.html" false),
    .mark { path := "a.html", size := 1, profile := "basic", algorithm := "AES-CBC" }]

/-- The second page is blamed by both writers; without it, nothing is. -/
theorem abandonment_is_final_droppedPage :
    (Move.runAll droppedPage (ReadingOrder.writerFor {} {} {})).2.Refuses "b.html" ∧
      (Move.runAll droppedPage
        ({ output := {}, ledger := { records := [] } } : Writer Epub.Ledger)).2.Refuses "b.html" ∧
      Blameless (Move.runAll [.visit (pageVisit "a.html" true)]
        (ReadingOrder.writerFor {} {} {})).2.close.outcome :=
  ⟨(abandonment_is_final.1 _ _ rfl).given "b.html" rfl,
    (abandonment_is_final.2 _ _ rfl).given "b.html" rfl,
    ((abandonment_is_final.1 _ _ rfl).kept rfl).2⟩

end Writer

end Bindery
