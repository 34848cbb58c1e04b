import Bindery.Package.Step
import Bindery.Package.Writer
import Bindery.Proofs.Zip.Output

/-! What the writing of one entry can leave behind. Whatever fails on the way, the writer is behind
it in one of five states, and only one of them has the entry in the ledger. -/
namespace Bindery

/-- The path at which a step opens an entry, if it comes to that. -/
def Step.opens? : Step → Option String
  | file plan => some plan.path
  | mark _ => none
  | copy r => some r.path
  | encrypt _ r => if r.content.isOk then some r.path else none

namespace Writer

open Zip (Archive Method Output Unsealed)

variable {α : Type}

/-- A writer that cannot be closed with success: it has abandoned an entry, or its archive has an
entry whose name the device refuses. -/
def Doomed (w : Writer α) : Prop := w.abandoned.isSome = true ∨ w.output.Broken

theorem Doomed.mono {w w' : Writer α} (doomed : w.Doomed)
    (grown : Output.Extends w.output w'.output)
    (kept : w.abandoned.isSome = true → w'.abandoned.isSome = true) : w'.Doomed := by
  rcases doomed with given | broken
  · exact .inl (kept given)
  · exact .inr (grown.broken broken)

theorem doomed_abandon (draft : Draft) (w : Writer α) : (w.abandon draft).Doomed := by
  left
  cases given : w.abandoned with
  | none => simp [abandon, given]
  | some path => simp [abandon, given]

section
variable {w : Writer α}

theorem onOutput_of_ok {β : Type} {act : Action Output β} {b : β} {o : Output}
    (ran : act w.output = .ok b o) :
    (onOutput act : Action (Writer α) β) w = .ok b { w with output := o } :=
  Action.within_of_ok ran

theorem onOutput_of_error {β : Type} {act : Action Output β} {e : Error} {o : Output}
    (ran : act w.output = .error e o) :
    (onOutput act : Action (Writer α) β) w = .error e { w with output := o } :=
  Action.within_of_error ran

theorem checkIntact_of_intact (intact : w.abandoned = none) :
    (checkIntact : Action (Writer α) Unit) w = .ok () w := by
  have got : (get : Action (Writer α) (Writer α)) w = .ok w w := rfl
  unfold checkIntact
  rw [Action.bind_of_ok got, intact]
  rfl

theorem checkIntact_of_abandoned {first : String} (given : w.abandoned = some first) :
    (checkIntact : Action (Writer α) Unit) w = .error (.sequence (.abandoned first)) w := by
  have got : (get : Action (Writer α) (Writer α)) w = .ok w w := rfl
  unfold checkIntact
  rw [Action.bind_of_ok got, given]
  rfl

def Writes {β : Type} (w : Writer α) (e : Unsealed) (bytes : Bytes) (yields : β → Prop)
    (act : Action (Writer α) β) : Prop :=
  (∃ b, act { w with output := w.output.opened e } =
      .ok b { w with output := w.output.opened { e with content := e.content ++ bytes } } ∧
    yields b) ∨
  ∃ err w', act { w with output := w.output.opened e } = .error err w' ∧
    Output.Extends w.output w'.output

theorem Writes.bind {β γ : Type} {e : Unsealed} {first second : Bytes} {yields : β → Prop}
    {result : γ → Prop} {act : Action (Writer α) β} {next : β → Action (Writer α) γ}
    (writes : Writes w e first yields act)
    (after : ∀ b, yields b →
      Writes w { e with content := e.content ++ first } second result (next b)) :
    Writes w e (first ++ second) result (act >>= next) := by
  rcases writes with ⟨b, ran, holds⟩ | ⟨err, w', failed, grown⟩
  · rcases after b holds with ⟨c, later, result⟩ | ⟨err, w', failed, grown⟩
    · left
      refine ⟨c, ?_, result⟩
      rw [Action.bind_of_ok ran, later, List.append_assoc]
    · right
      exact ⟨err, w', by rw [Action.bind_of_ok ran, failed], grown⟩
  · exact .inr ⟨err, w', Action.bind_of_error failed, grown⟩

theorem writes_pure {β : Type} {e : Unsealed} {yields : β → Prop} {b : β} (holds : yields b) :
    Writes w e [] yields (pure b : Action (Writer α) β) := by
  left
  refine ⟨b, ?_, holds⟩
  rw [List.append_nil]
  rfl

end

variable [Ledger α]

/-- What has become of `w` behind an attempt to write an entry, and what came of the attempt. -/
inductive Entered (w : Writer α) (path type : String) (method : Method) (content : Bytes) :
    Result Unit → Writer α → Prop where
  | lost {outcome : Result Unit} {w' : Writer α} : w'.Doomed →
      Output.Extends w.output w'.output → Entered w path type method content outcome w'
  | repeated {e : Error} : path ∈ w.output.names →
      Entered w path type method content (.error e) { w with output := w.output.settle }
  | unsigned {e : Error} {device : Device} : device.refused = w.output.device.refused →
      device.refusesFlush = w.output.device.refusesFlush →
      w.output.device.refuses Zip.localSignature = true →
      Entered w path type method content (.error e)
        { w with output := { w.output.settle with device } }
  /-- The entry was written and not committed, since the device refuses to be flushed. -/
  | stray {e : Error} : w.output.device.refusesFlush = true → path ∉ w.output.names →
      Entered w path type method content (.error e)
        { w with output := w.output.opened { name := path, method, content } }
  | committed {draft : Draft} : w.output.device.refusesFlush = false → path ∉ w.output.names →
      draft.path = path → draft.type = type →
      Entered w path type method content (.ok ())
        { w with
          output := w.output.opened { name := path, method, content }
          ledger := Ledger.commit draft w.ledger }

variable {w w' : Writer α} {path type : String} {method : Method} {content : Bytes}
  {outcome : Result Unit}

theorem Entered.extends (entered : Entered w path type method content outcome w') :
    Output.Extends w.output w'.output := by
  have settled := Output.extends_settle w.output
  cases entered with
  | lost _ grown => exact grown
  | repeated => exact settled
  | unsigned refused flush => exact ⟨refused, flush, settled.slots⟩
  | stray => exact Output.extends_opened _ _
  | committed => exact Output.extends_opened _ _

theorem Entered.doomed (entered : Entered w path type method content outcome w')
    (doomed : w.Doomed) : w'.Doomed := by
  have grown := entered.extends
  cases entered with
  | lost doomed => exact doomed
  | repeated => exact doomed.mono grown id
  | unsigned => exact doomed.mono grown id
  | stray => exact doomed.mono grown id
  | committed => exact doomed.mono grown id

/-! ## Opening an entry -/

theorem entered_of_unstarted {o : Output} {e : Error}
    (unstarted : Output.Unstarted w.output path o) :
    Entered w path type method content (.error e) { w with output := o } := by
  have grown := unstarted.extends
  cases unstarted with
  | taken taken => exact .repeated taken
  | unsigned refused flush signature => exact .unsigned refused flush signature
  | nameless refused flush name =>
    refine .lost (.inr ⟨path, ?_, ?_⟩) grown
    · exact List.mem_append_right _ (List.mem_singleton.mpr rfl)
    · exact (grown.refuses _).trans name

theorem newFile_cases (w : Writer α) (path type : String) (method : Method) :
    (newFile path type method w = .ok { path, type, method }
        { w with output := w.output.opened { name := path, method } } ∧
      path ∉ w.output.names) ∨
    ∃ e w', newFile path type method w = .error e w' ∧
      ∀ content, Entered w path type method content (.error e) w' := by
  unfold newFile
  rcases Option.eq_none_or_eq_some w.abandoned with given | ⟨first, given⟩
  · rw [Action.bind_of_ok (checkIntact_of_intact given)]
    rcases Output.start_cases w.output path method with ⟨started, fresh, _⟩ | ⟨e, o, failed, how⟩
    · left
      rw [Action.bind_of_ok (onOutput_of_ok started)]
      exact ⟨rfl, fresh⟩
    · exact .inr ⟨e, _, Action.bind_of_error (onOutput_of_error failed), fun content =>
        entered_of_unstarted how⟩
  · refine .inr ⟨_, w, Action.bind_of_error (checkIntact_of_abandoned given), fun content => ?_⟩
    exact .lost (.inl (by rw [given]; rfl)) (Output.Extends.refl _)

/-! ## Writing to an entry -/

def IsDraft (path type : String) (draft : Draft) : Prop := draft.path = path ∧ draft.type = type

theorem writes_append (e : Unsealed) (bytes : Bytes) {draft : Draft}
    (isDraft : IsDraft path type draft) :
    Writes w e bytes (IsDraft path type) (Sink.append draft bytes) := by
  unfold Sink.append
  rcases Output.write_cases w.output e bytes with written | ⟨err, o, failed, grown, _⟩
  · left
    refine ⟨{ draft with written := draft.written + bytes.length }, ?_, isDraft⟩
    have ran : (Sink.write bytes : Action (Writer α) Unit) { w with output := w.output.opened e } =
        .ok () _ :=
      onOutput_of_ok (w := { w with output := w.output.opened e }) written
    rw [Action.bind_of_ok ran]
    rfl
  · right
    have ran : (Sink.write bytes : Action (Writer α) Unit) { w with output := w.output.opened e } =
        .error err _ :=
      onOutput_of_error (w := { w with output := w.output.opened e }) failed
    exact ⟨err, _, Action.bind_of_error ran, (Output.extends_opened _ _).trans grown⟩

theorem writes_chunks (e : Unsealed) (chunks : List Bytes) {draft : Draft}
    (isDraft : IsDraft path type draft) :
    Writes w e chunks.flatten (IsDraft path type) (chunks.foldlM Sink.append draft) := by
  induction chunks generalizing e draft with
  | nil => exact writes_pure isDraft
  | cons chunk chunks ih =>
    rw [List.foldlM_cons, List.flatten_cons]
    exact (writes_append e chunk isDraft).bind fun _ holds => ih _ holds

theorem writes_flush {e : Unsealed} :
    Writes w e [] (fun _ => True) (Sink.flush : Action (Writer α) Unit) := by
  have same : (w.output.opened e).device = w.output.device := Output.settle_device _
  cases refused : w.output.device.refusesFlush with
  | false =>
    have passed := Output.flush_of_taken (o := w.output.opened e) (by rwa [same])
    left
    refine ⟨(), ?_, trivial⟩
    rw [List.append_nil]
    exact onOutput_of_ok (w := { w with output := w.output.opened e }) passed
  | true =>
    obtain ⟨err, failed⟩ := Output.flush_of_refused (o := w.output.opened e) (by rwa [same])
    exact .inr ⟨err, _, onOutput_of_error (w := { w with output := w.output.opened e }) failed,
      Output.extends_opened _ _⟩

/-! ## Whole entries -/

def Enters (w : Writer α) (path type : String) (method : Method) (content : Bytes)
    (reports : Result Unit → Result Unit → Prop) (act : Action (Writer α) Unit)
    (v : Writer α) : Prop :=
  ∃ outcome, Entered w path type method content outcome (act.perform v).2 ∧
    reports (act.perform v).1 outcome

def writing (w : Writer α) (path : String) (method : Method) (content : Bytes) : Writer α :=
  { w with output := w.output.opened { name := path, method, content } }

variable {reports : Result Unit → Result Unit → Prop}

theorem enters_of_newFile (reflexive : ∀ outcome, reports outcome outcome)
    {next : Draft → Action (Writer α) Unit}
    (after : path ∉ w.output.names →
      Enters w path type method content reports (next { path, type, method })
        (w.writing path method [])) :
    Enters w path type method content reports (Sink.newFile path type method >>= next) w := by
  rcases newFile_cases w path type method with ⟨opened, fresh⟩ | ⟨e, w', failed, entered⟩
  · have opened : (Sink.newFile path type method : Action (Writer α) Draft) w = .ok _ _ := opened
    rw [Enters, Action.perform_bind_of_ok opened]
    exact after fresh
  · have failed : (Sink.newFile path type method : Action (Writer α) Draft) w = .error e w' :=
      failed
    rw [Enters, Action.perform_bind_of_error failed]
    exact ⟨.error e, entered content, reflexive _⟩

theorem enters_of_writes (reflexive : ∀ outcome, reports outcome outcome) {β : Type}
    {draft : Draft} {yields : β → Prop} {act : Action (Writer α) β}
    {next : β → Action (Writer α) Unit}
    (writes : Writes w { name := path, method } content yields act)
    (after : ∀ b, yields b →
      Enters w path type method content reports (next b) (w.writing path method content)) :
    Enters w path type method content reports (Sink.guarded draft act >>= next)
      (w.writing path method []) := by
  rcases writes with ⟨b, ran, holds⟩ | ⟨err, w', failed, grown⟩
  · have guarded : Sink.guarded draft act (w.writing path method []) = .ok b _ :=
      Action.onFault_of_ok ran
    rw [Enters, Action.perform_bind_of_ok guarded]
    exact after b holds
  · have guarded : Sink.guarded draft act (w.writing path method []) = .error err _ :=
      Action.onFault_of_error failed
    rw [Enters, Action.perform_bind_of_error guarded]
    exact ⟨.error err, .lost (doomed_abandon draft w') grown, reflexive _⟩

theorem commit_cases (v : Writer α) (draft : Draft) :
    (v.output.device.refusesFlush = false ∧
      commit draft v = .ok () { v with ledger := Ledger.commit draft v.ledger }) ∨
    (v.output.device.refusesFlush = true ∧ ∃ e, commit draft v = .error e v) := by
  unfold commit
  cases refused : v.output.device.refusesFlush with
  | false =>
    left
    rw [Action.bind_of_ok (onOutput_of_ok (Output.flush_of_taken refused))]
    exact ⟨rfl, rfl⟩
  | true =>
    right
    obtain ⟨e, failed⟩ := Output.flush_of_refused refused
    exact ⟨rfl, e, Action.bind_of_error (onOutput_of_error failed)⟩

theorem entered_commit {draft : Draft} (fresh : path ∉ w.output.names)
    (isDraft : IsDraft path type draft) :
    Entered w path type method content
      ((Sink.commit draft).perform (w.writing path method content)).1
      ((Sink.commit draft).perform (w.writing path method content)).2 := by
  have same : (w.writing path method content).output.device = w.output.device :=
    Output.settle_device _
  rcases commit_cases (w.writing path method content) draft with
    ⟨taken, ran⟩ | ⟨refused, e, failed⟩
  · have ran : (Sink.commit draft : Action (Writer α) Unit) _ = .ok () _ := ran
    rw [Action.perform_of_ok ran]
    rw [same] at taken
    exact .committed taken fresh isDraft.1 isDraft.2
  · have failed : (Sink.commit draft : Action (Writer α) Unit) _ = .error e _ := failed
    rw [Action.perform_of_error failed]
    rw [same] at refused
    exact .stray refused fresh

/-! ## Steps -/

theorem writes_plan (plan : EntryPlan) (e : Unsealed) {opened : Draft}
    (isDraft : IsDraft path type opened) :
    Writes w e plan.chunks.flatten (IsDraft path type) (do
      let draft ← plan.chunks.foldlM Sink.append opened
      if plan.flushes then Sink.flush
      return draft) := by
  have whole : plan.chunks.flatten = plan.chunks.flatten ++ ([] ++ []) := by simp
  rw [whole]
  refine (writes_chunks e plan.chunks isDraft).bind fun draft isDraft => ?_
  cases plan.flushes with
  | true => exact writes_flush.bind fun _ _ => writes_pure isDraft
  | false => exact writes_pure isDraft

theorem run_file (plan : EntryPlan) : (Step.run (.file plan) : Action (Writer α) Unit) = (do
    let opened ← Sink.newFile plan.path plan.type plan.method
    let opened := { opened with plaintextDeflated := plan.plaintextDeflated }
    let draft ← Sink.guarded opened do
      let draft ← plan.chunks.foldlM Sink.append opened
      if plan.flushes then Sink.flush
      return draft
    if plan.finishes then Sink.commit draft else modify (Sink.abandon draft)) := by
  unfold Step.run EntryPlan.run
  cases finishes : plan.finishes <;> simp [finishes]

theorem entered_file (w : Writer α) (plan : EntryPlan) :
    Entered w plan.path plan.type plan.method plan.chunks.flatten
      ((Step.run (.file plan)).perform w).1 ((Step.run (.file plan)).perform w).2 := by
  have enters : Enters w plan.path plan.type plan.method plan.chunks.flatten Eq
      (Step.run (.file plan)) w := by
    rw [run_file]
    refine enters_of_newFile (fun _ => rfl) fun fresh => ?_
    refine enters_of_writes (fun _ => rfl) (writes_plan plan _ ⟨rfl, rfl⟩) fun draft isDraft => ?_
    cases plan.finishes with
    | true => exact ⟨_, entered_commit fresh isDraft, rfl⟩
    | false => exact ⟨_, .lost (doomed_abandon draft _) (Output.extends_opened _ _), rfl⟩
  obtain ⟨outcome, entered, same⟩ := enters
  rwa [same]

theorem rest_of_read {source later : Source} {part : Bytes}
    (found : Source.read Source.transferUnit source = .ok part later) :
    source.rest = part ++ later.rest ∧ (part = [] → later.rest = []) := by
  have positive : Source.transferUnit ≠ 0 := by decide
  unfold Source.read at found
  rw [if_neg positive] at found
  split at found
  · cases found
  · rename_i empty _
    cases found
    rw [empty]
    exact ⟨rfl, fun _ => rfl⟩
  · rename_i b rest held
    cases found
    rw [held]
    refine ⟨(List.take_append_drop _ _).symm, fun none => ?_⟩
    exact absurd none (by simp [Source.transferUnit])

def exhausted (source : Source) : Source :=
  { source with rest := [], yielded := source.yielded + source.rest.length, ended := true }

theorem read_exhausted {source : Source} (sound : source.fault = none) (empty : source.rest = []) :
    Source.read Source.transferUnit source = .ok [] (exhausted source) := by
  have positive : Source.transferUnit ≠ 0 := by decide
  unfold Source.read
  rw [if_neg positive]
  simp only [empty, sound, exhausted, List.length_nil, Nat.add_zero]

theorem read_broken {source : Source} {fault : StreamFault} (breaks : source.fault = some fault)
    (empty : source.rest = []) :
    Source.read Source.transferUnit source = .error (.stream fault) source := by
  have positive : Source.transferUnit ≠ 0 := by decide
  unfold Source.read
  rw [if_neg positive]
  simp only [empty, breaks]

theorem read_piece {source : Source} {b : UInt8} {rest : Bytes} (held : source.rest = b :: rest) :
    Source.read Source.transferUnit source =
      .ok ((b :: rest).take Source.transferUnit) { source with
        rest := (b :: rest).drop Source.transferUnit
        yielded := source.yielded + ((b :: rest).take Source.transferUnit).length } := by
  have positive : Source.transferUnit ≠ 0 := by decide
  unfold Source.read
  rw [if_neg positive]
  simp only [held]

theorem exhausted_piece {source : Source} {b : UInt8} {rest : Bytes}
    (held : source.rest = b :: rest) :
    exhausted { source with
      rest := (b :: rest).drop Source.transferUnit
      yielded := source.yielded + ((b :: rest).take Source.transferUnit).length } =
    exhausted source := by
  have whole := congrArg List.length (List.take_append_drop Source.transferUnit (b :: rest))
  rw [List.length_append] at whole
  simp only [exhausted, held, Nat.add_assoc, whole]

def ending (source : Source) : Result Unit :=
  match source.fault with
  | some fault => .error (.stream fault)
  | none => .ok ()

theorem pieces_piece (b : UInt8) (rest : Bytes) : pieces Source.transferUnit (b :: rest) =
    (b :: rest).take Source.transferUnit ::
      pieces Source.transferUnit ((b :: rest).drop Source.transferUnit) := by
  rw [pieces, if_neg (by simp [Source.transferUnit])]

theorem transfer_eq {σ : Type} [Sink σ] (draft : Draft) (source : Source) :
    (Resource.transfer draft source : Action σ (Draft × Source)) = (do
      let draft ← (pieces Source.transferUnit source.rest).foldlM Sink.append draft
      Action.ofResult (ending source)
      return (draft, exhausted source)) := by
  have none : pieces Source.transferUnit ([] : Bytes) = [] := by rw [pieces, if_pos (.inl rfl)]
  fun_induction Resource.transfer (σ := σ) draft source with
  | case1 draft source err later found =>
    cases held : source.rest with
    | cons b rest => cases (read_piece held).symm.trans found
    | nil =>
      cases breaks : source.fault with
      | none => cases (read_exhausted breaks held).symm.trans found
      | some fault =>
        cases (read_broken breaks held).symm.trans found
        rw [none, ending, breaks]
        rfl
  | case2 draft source later found =>
    cases held : source.rest with
    | cons b rest =>
      have some := (read_piece held).symm.trans found
      cases some
    | nil =>
      cases breaks : source.fault with
      | some fault => cases (read_broken breaks held).symm.trans found
      | none =>
        cases (read_exhausted breaks held).symm.trans found
        rw [none, ending, breaks]
        rfl
  | case3 draft source b part later found ih =>
    cases held : source.rest with
    | nil =>
      cases breaks : source.fault with
      | none => cases (read_exhausted breaks held).symm.trans found
      | some fault => cases (read_broken breaks held).symm.trans found
    | cons c rest =>
      have same := (read_piece held).symm.trans found
      simp only [EStateM.Result.ok.injEq] at same
      obtain ⟨taken, rfl⟩ := same
      rw [exhausted_piece held] at ih
      rw [pieces_piece, ← taken, List.foldlM_cons, bind_assoc]
      exact congrArg (Sink.append draft ((c :: rest).take Source.transferUnit) >>= ·) (funext ih)

theorem transfer_sound {σ : Type} [Sink σ] (draft : Draft) (source : Source)
    (sound : source.fault = none) :
    (Resource.transfer draft source : Action σ (Draft × Source)) = (do
      let draft ← (pieces Source.transferUnit source.rest).foldlM Sink.append draft
      return (draft, exhausted source)) := by
  rw [transfer_eq, ending, sound]
  rfl

theorem writes_transfer (e : Unsealed) (source : Source) {opened : Draft}
    (isDraft : IsDraft path type opened) :
    Writes w e source.rest (fun moved => IsDraft path type moved.1)
      (Resource.transfer opened source) := by
  fun_induction Resource.transfer (σ := Writer α) opened source generalizing e with
  | case1 opened source err later found => exact .inr ⟨err, _, rfl, Output.extends_opened _ _⟩
  | case2 opened source later found =>
    obtain ⟨whole, rest⟩ := rest_of_read found
    rw [whole, rest rfl]
    exact writes_pure isDraft
  | case3 opened source b part later found ih =>
    rw [(rest_of_read found).1]
    exact (writes_append e (b :: part) isDraft).bind fun draft isDraft => ih draft _ isDraft

/-- The content of the entry that a resource is copied to, if the whole of it arrives. -/
def copied (r : Resource) : Bytes :=
  match r.source with
  | .ok source => source.rest
  | .error _ => []

theorem writes_copied (r : Resource) (e : Unsealed) {opened : Draft}
    (isDraft : IsDraft path type opened) :
    Writes w e (copied r) (fun moved => IsDraft path type moved.1) (do
      let source ← Action.ofResult r.source
      Resource.transfer opened source) := by
  unfold copied
  cases opens : r.source with
  | error err =>
    exact .inr ⟨err, _, Action.bind_of_error (Action.ofResult_of_error rfl),
      Output.extends_opened _ _⟩
  | ok source =>
    exact writes_transfer e source isDraft

def Honest (reported outcome : Result Unit) : Prop := reported = .ok () → outcome = .ok ()

theorem perform_copied {σ : Type} [Sink σ] (s : σ) (draft : Draft) (source : Source) :
    (do
      let committed ← (Sink.commit draft).attempt
      Action.ofResult source.close
      Action.ofResult committed : Action σ Unit).perform s =
      (source.close *> ((Sink.commit draft).perform s).1, ((Sink.commit draft).perform s).2) := by
  rw [Action.perform_bind_of_ok (Action.attempt_eq _ s)]
  cases closes : source.close with
  | error e => exact Action.perform_bind_of_error (Action.ofResult_of_error rfl)
  | ok =>
    rw [Action.perform_bind_of_ok (Action.ofResult_of_ok rfl), Action.perform_ofResult]
    rfl

/-- A copied resource is written under its path, type and method. What is reported of an entry that
was committed may still be that its source was of another size. -/
theorem enters_copy (w : Writer α) (r : Resource) :
    Enters w r.path r.type r.method (copied r) Honest (Step.run (.copy r)) w := by
  refine enters_of_newFile (fun _ => id) fun fresh => ?_
  refine enters_of_writes (fun _ => id) (writes_copied r _ ⟨rfl, rfl⟩) fun moved isDraft => ?_
  obtain ⟨draft, source⟩ := moved
  rw [Enters, perform_copied]
  refine ⟨_, entered_commit fresh isDraft, ?_⟩
  intro reported
  cases closes : source.close with
  | error e =>
    simp only [closes] at reported
    cases reported
  | ok =>
    simp only [closes] at reported
    exact reported

def markOf (cipher : Cipher) (r : Resource) : Mark where
  path := r.path
  size := UInt64.ofNat r.size
  profile := cipher.profile
  algorithm := cipher.algorithm

def encryptedEntry (cipher : Cipher) (r : Resource) (plain : Bytes) : Action (Writer α) Unit := do
  let opened ← Sink.newFile r.path r.type .stored
  let opened := { opened with plaintextDeflated := r.compressFirst }
  let draft ← Sink.guarded opened (Sink.append opened (cipher.encrypt plain))
  Sink.commit draft

theorem enters_encrypted (w : Writer α) (cipher : Cipher) (r : Resource) (plain : Bytes) :
    Enters w r.path r.type .stored (cipher.encrypt plain) Eq (encryptedEntry cipher r plain) w := by
  refine enters_of_newFile (fun _ => rfl) fun fresh => ?_
  refine enters_of_writes (fun _ => rfl) (writes_append _ _ ⟨rfl, rfl⟩) fun draft isDraft => ?_
  exact ⟨_, entered_commit fresh isDraft, rfl⟩

theorem run_encrypt (cipher : Cipher) (r : Resource) :
    (Step.run (.encrypt cipher r) : Action (Writer α) Unit) = (do
      let plain ← Action.ofResult r.content
      encryptedEntry cipher r plain
      Sink.mark (markOf cipher r)) := by
  unfold encryptedEntry
  unfold Step.run Resource.encryptTo
  simp only [bind_assoc]
  rfl

/-- An encrypted resource is written as a stored entry and then marked, unless its content cannot be
read. -/
theorem encrypt_cases (w : Writer α) (cipher : Cipher) (r : Resource) :
    (∃ e, r.content = .error e ∧ (Step.run (.encrypt cipher r)).perform w = (.error e, w)) ∨
    ∃ plain, r.content = .ok plain ∧ ∃ outcome w',
      Entered w r.path r.type .stored (cipher.encrypt plain) outcome w' ∧
      (Step.run (.encrypt cipher r)).perform w = match outcome with
        | .ok () => (mark (markOf cipher r)).perform w'
        | .error e => (.error e, w') := by
  rw [run_encrypt]
  cases reads : r.content with
  | error e => exact .inl ⟨e, rfl, Action.perform_bind_of_error (Action.ofResult_of_error rfl)⟩
  | ok plain =>
    right
    rw [Action.perform_bind_of_ok (Action.ofResult_of_ok rfl)]
    refine ⟨plain, rfl, ?_⟩
    obtain ⟨outcome, entered, same⟩ := enters_encrypted w cipher r plain
    refine ⟨outcome, _, entered, ?_⟩
    cases performed : (encryptedEntry cipher r plain : Action (Writer α) Unit) w with
    | ok a w' =>
      rw [Action.perform_of_ok performed] at same ⊢
      subst same
      exact Action.perform_bind_of_ok performed
    | error e w' =>
      rw [Action.perform_of_error performed] at same ⊢
      subst same
      exact Action.perform_bind_of_error performed

theorem perform_mark (w : Writer α) (m : Mark) :
    (mark m).perform w = match Ledger.mark? w.settings m w.ledger with
      | none => (unmatched w.settings m.path, w)
      | some (.error e) => (.error e, w)
      | some (.ok ledger) => (.ok (), { w with ledger }) := by
  have got : (get : Action (Writer α) (Writer α)) w = .ok w w := rfl
  unfold mark
  rw [Action.perform_bind_of_ok got]
  cases recorded : Ledger.mark? w.settings m w.ledger with
  | none => exact Action.perform_ofResult _ w
  | some result =>
    cases result with
    | ok ledger => rfl
    | error e => rfl

theorem mark_keeps (w : Writer α) (m : Mark) :
    ∃ ledger, ((mark m).perform w).2 = { w with ledger } ∧
      (ledger = w.ledger ∨ Ledger.mark? w.settings m w.ledger = some (.ok ledger)) := by
  rw [perform_mark]
  cases recorded : Ledger.mark? w.settings m w.ledger with
  | none => exact ⟨w.ledger, rfl, .inl rfl⟩
  | some result =>
    cases result with
    | ok ledger => exact ⟨ledger, rfl, .inr rfl⟩
    | error e => exact ⟨w.ledger, rfl, .inl rfl⟩

end Writer
end Bindery
