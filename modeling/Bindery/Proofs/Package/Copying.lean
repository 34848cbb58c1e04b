import Bindery.Proofs.Package.Entry

/-! Copies to any destination. Five steps of a copy can fail, and the first one that does is
reported. Behind a whole transfer the entry is committed, be the source of the declared size or not;
behind any other transfer it is abandoned. The calls that a copy makes are noted by a destination
that does nothing else of its own. -/
namespace Bindery

open Writer (ending exhausted)
open Zip (Method)

/-! ## Destinations under observation -/

inductive SinkCall where
  | newFile (path type : String) (method : Method) (opened : Result Draft)
  | write (bytes : Bytes) (outcome : Result Unit)
  | flush (outcome : Result Unit)
  | commit (draft : Draft) (outcome : Result Unit)
  | abandon (draft : Draft)
  | mark (m : Mark) (outcome : Result Unit)

/-- A destination with the calls that were made of it, in their order. -/
structure Observed (σ : Type) where
  state : σ
  calls : List SinkCall := []

variable {σ : Type}

def Observed.noting {α : Type} (call : Result α → SinkCall) (act : Action σ α) :
    Action (Observed σ) α := fun o =>
  match act o.state with
  | .ok a s => .ok a ⟨s, o.calls ++ [call (.ok a)]⟩
  | .error e s => .error e ⟨s, o.calls ++ [call (.error e)]⟩

variable [Sink σ]

instance : Sink (Observed σ) where
  newFile path type method :=
    Observed.noting (.newFile path type method) (Sink.newFile path type method)
  write bytes := Observed.noting (.write bytes) (Sink.write bytes)
  flush := Observed.noting .flush Sink.flush
  commit draft := Observed.noting (.commit draft) (Sink.commit draft)
  abandon draft o := ⟨Sink.abandon draft o.state, o.calls ++ [.abandon draft]⟩
  mark m := Observed.noting (.mark m) (Sink.mark m)

def Commits (calls : List SinkCall) : Prop := ∃ draft, .commit draft (.ok ()) ∈ calls

def Abandons (calls : List SinkCall) : Prop := ∃ draft, .abandon draft ∈ calls

/-! ## The steps of a copy -/

def Source.pour (source : Source) (draft : Draft) : Action σ Draft := do
  let draft ← (pieces transferUnit source.rest).foldlM Sink.append draft
  Action.ofResult (ending source)
  return draft

/-- Whether all that a source yields is of the declared size. What was read of it before is counted
too; one that was just opened has yielded nothing. -/
def Source.sized (source : Source) : Result Unit :=
  if source.yielded + source.rest.length = source.declared then .ok ()
  else .error (.stream (.wrongLength (source.yielded + source.rest.length) source.declared))

/-- What comes of the five steps of a copy, each one taken in the state that the one before it has
left. A step that is not reached fails as the one did that it depends on. -/
structure Trial where
  opened : Result Draft
  source : Result Source
  moved : Result Draft
  sized : Result Unit
  committed : Result Unit

def Resource.trial (r : Resource) (s : σ) : Trial :=
  let (opened, behind) := (Sink.newFile r.path r.type r.method).perform s
  let (moved, full) := Action.perform (do
    let draft ← Action.ofResult opened
    let source ← Action.ofResult r.source
    source.pour draft) behind
  let (committed, _) := Action.perform (do
    let draft ← Action.ofResult moved
    Sink.commit draft) full
  { opened, source := r.source, moved, sized := r.source >>= Source.sized, committed }

/-- What a copy reports: the first failure of its steps. -/
def Trial.verdict (t : Trial) : Result Unit := do
  let _ ← t.opened
  let _ ← t.source
  let _ ← t.moved
  t.sized
  t.committed

theorem close_exhausted (source : Source) : (exhausted source).close = source.sized := by
  by_cases same : source.yielded + source.rest.length = source.declared
  · simp [Source.close, Source.sized, exhausted, same]
  · simp [Source.close, Source.sized, exhausted, same]

section Steps
variable {r : Resource} {source : Source} {draft whole : Draft} {e : Error} {s s₁ s₂ : σ}

theorem copyTo_refused (opened : Sink.newFile r.path r.type r.method s = .error e s₁) :
    r.copyTo s = .error e s₁ :=
  Action.bind_of_error opened

/-- A copy whose entry is opened and not filled. -/
theorem copyTo_unfilled (opened : Sink.newFile r.path r.type r.method s = .ok draft s₁)
    (fills : (do Resource.transfer draft (← Action.ofResult r.source)) s₁ = .error e s₂) :
    r.copyTo s = .error e (Sink.abandon draft s₂) := by
  have guarded : Sink.guarded draft (do Resource.transfer draft (← Action.ofResult r.source)) s₁ =
      .error e (Sink.abandon draft s₂) := Action.onFault_of_error fills
  exact (Action.bind_of_ok opened).trans (Action.bind_of_error guarded)

theorem copyTo_unopened (opened : Sink.newFile r.path r.type r.method s = .ok draft s₁)
    (closed : r.source = .error e) : r.copyTo s = .error e (Sink.abandon draft s₁) :=
  copyTo_unfilled opened (Action.bind_of_error (Action.ofResult_of_error closed))

theorem transfer_eq_pour (draft : Draft) (source : Source) :
    (Resource.transfer draft source : Action σ (Draft × Source)) =
      (source.pour draft >>= fun draft => pure (draft, exhausted source)) := by
  rw [Writer.transfer_eq, Source.pour]
  simp only [bind_assoc, pure_bind]

theorem copyTo_broken (opened : Sink.newFile r.path r.type r.method s = .ok draft s₁)
    (found : r.source = .ok source) (breaks : source.pour draft s₁ = .error e s₂) :
    r.copyTo s = .error e (Sink.abandon draft s₂) := by
  apply copyTo_unfilled opened
  rw [Action.bind_of_ok (Action.ofResult_of_ok found), transfer_eq_pour]
  exact Action.bind_of_error breaks

/-- A copy whose entry is filled reports the size of its source before the commit. -/
theorem copyTo_filled (opened : Sink.newFile r.path r.type r.method s = .ok draft s₁)
    (found : r.source = .ok source) (poured : source.pour draft s₁ = .ok whole s₂) :
    r.copyTo.perform s = (source.sized *> ((Sink.commit whole).perform s₂).1,
      ((Sink.commit whole).perform s₂).2) := by
  have fills : (do Resource.transfer draft (← Action.ofResult r.source)) s₁ =
      .ok (whole, exhausted source) s₂ := by
    rw [Action.bind_of_ok (Action.ofResult_of_ok found), transfer_eq_pour]
    exact Action.bind_of_ok poured
  have guarded : Sink.guarded draft (do Resource.transfer draft (← Action.ofResult r.source)) s₁ =
      .ok (whole, exhausted source) s₂ := Action.onFault_of_ok fills
  rw [← close_exhausted, ← Writer.perform_copied]
  exact (Action.perform_bind_of_ok opened).trans (Action.perform_bind_of_ok guarded)

end Steps

/-! ## The calls of a copy -/

section Calls
variable {s t : σ} {calls : List SinkCall} {draft whole : Draft} {source : Source} {e : Error}

omit [Sink σ] in
theorem noting_of_ok {α : Type} {act : Action σ α} {a : α} (ran : act s = .ok a t)
    (call : Result α → SinkCall) :
    Observed.noting call act ⟨s, calls⟩ = .ok a ⟨t, calls ++ [call (.ok a)]⟩ := by
  simp only [Observed.noting, ran]

omit [Sink σ] in
theorem noting_of_error {α : Type} {act : Action σ α} (failed : act s = .error e t)
    (call : Result α → SinkCall) :
    Observed.noting call act ⟨s, calls⟩ = .error e ⟨t, calls ++ [call (.error e)]⟩ := by
  simp only [Observed.noting, failed]

omit [Sink σ] in
theorem perform_noting {α : Type} (act : Action σ α) (call : Result α → SinkCall) (s : σ)
    (calls : List SinkCall) :
    (Observed.noting call act).perform ⟨s, calls⟩ =
      ((act.perform s).1, ⟨(act.perform s).2, calls ++ [call (act.perform s).1]⟩) := by
  cases ran : act s with
  | ok a t => rw [Action.perform_of_ok ran, Action.perform_of_ok (noting_of_ok ran call)]
  | error e t => rw [Action.perform_of_error ran, Action.perform_of_error (noting_of_error ran call)]

def writeCalls (chunks : List Bytes) : List SinkCall := chunks.map (.write · (.ok ()))

def SinkCall.IsWrite (call : SinkCall) : Prop := ∃ bytes outcome, call = .write bytes outcome

theorem append_observed (bytes : Bytes) (appended : Sink.append draft bytes s = .ok whole t) :
    (Sink.append draft bytes : Action (Observed σ) Draft) ⟨s, calls⟩ =
      .ok whole ⟨t, calls ++ [.write bytes (.ok ())]⟩ := by
  obtain ⟨_, u, written, rest⟩ := Action.bind_ok appended
  cases rest
  exact Action.bind_of_ok (noting_of_ok written (.write bytes))

theorem append_refused (bytes : Bytes) (refused : Sink.append draft bytes s = .error e t) :
    (Sink.append draft bytes : Action (Observed σ) Draft) ⟨s, calls⟩ =
      .error e ⟨t, calls ++ [.write bytes (.error e)]⟩ := by
  cases written : Sink.write bytes s with
  | ok _ u => cases (Action.bind_of_ok written).symm.trans refused
  | error e' u =>
    cases (Action.bind_of_error written).symm.trans refused
    exact Action.bind_of_error (noting_of_error written (.write bytes))

theorem chunks_observed {chunks : List Bytes}
    (appended : chunks.foldlM Sink.append draft s = .ok whole t) :
    (chunks.foldlM Sink.append draft : Action (Observed σ) Draft) ⟨s, calls⟩ =
      .ok whole ⟨t, calls ++ writeCalls chunks⟩ := by
  induction chunks generalizing draft s calls with
  | nil =>
    cases appended
    rw [writeCalls, List.map_nil, List.append_nil]
    rfl
  | cons chunk chunks ih =>
    rw [List.foldlM_cons] at appended ⊢
    obtain ⟨between, u, first, rest⟩ := Action.bind_ok appended
    rw [Action.bind_of_ok (append_observed chunk first), ih rest, List.append_assoc]
    rfl

theorem chunks_refused (calls : List SinkCall) {chunks : List Bytes}
    (refused : chunks.foldlM Sink.append draft s = .error e t) :
    ∃ writes, (chunks.foldlM Sink.append draft : Action (Observed σ) Draft) ⟨s, calls⟩ =
      .error e ⟨t, calls ++ writes⟩ ∧ ∀ call ∈ writes, call.IsWrite := by
  induction chunks generalizing draft s calls with
  | nil => cases refused
  | cons chunk chunks ih =>
    rw [List.foldlM_cons] at refused ⊢
    cases first : Sink.append draft chunk s with
    | error e' u =>
      cases (Action.bind_of_error first).symm.trans refused
      refine ⟨[.write chunk (.error e)], Action.bind_of_error (append_refused chunk first), ?_⟩
      exact List.forall_mem_singleton.mpr ⟨_, _, rfl⟩
    | ok between u =>
      rw [Action.bind_of_ok first] at refused
      obtain ⟨writes, ran, only⟩ := ih (calls ++ [.write chunk (.ok ())]) refused
      refine ⟨.write chunk (.ok ()) :: writes, ?_, List.forall_mem_cons.mpr ⟨⟨_, _, rfl⟩, only⟩⟩
      rw [Action.bind_of_ok (append_observed chunk first), ran, List.append_assoc]
      rfl

theorem pour_observed (calls : List SinkCall) (poured : source.pour draft s = .ok whole t) :
    (source.pour draft : Action (Observed σ) Draft) ⟨s, calls⟩ =
      .ok whole ⟨t, calls ++ writeCalls (pieces Source.transferUnit source.rest)⟩ := by
  obtain ⟨_, u, appended, rest⟩ := Action.bind_ok poured
  obtain ⟨_, v, ended, last⟩ := Action.bind_ok rest
  obtain ⟨rfl, sound⟩ := Action.eq_of_ofResult ended
  cases last
  rw [Source.pour, Action.bind_of_ok (chunks_observed appended),
    Action.bind_of_ok (Action.ofResult_of_ok sound)]
  rfl

theorem pour_broken (calls : List SinkCall) (broken : source.pour draft s = .error e t) :
    ∃ writes, (source.pour draft : Action (Observed σ) Draft) ⟨s, calls⟩ =
      .error e ⟨t, calls ++ writes⟩ ∧ ∀ call ∈ writes, call.IsWrite := by
  rw [Source.pour] at broken ⊢
  cases appended : (pieces Source.transferUnit source.rest).foldlM Sink.append draft s with
  | error e' u =>
    cases (Action.bind_of_error appended).symm.trans broken
    obtain ⟨writes, ran, only⟩ := chunks_refused calls appended
    exact ⟨writes, Action.bind_of_error ran, only⟩
  | ok whole u =>
    rw [Action.bind_of_ok appended] at broken
    rw [Action.bind_of_ok (chunks_observed appended)]
    cases ended : ending source with
    | ok => cases (Action.bind_of_ok (Action.ofResult_of_ok rfl)).symm.trans (ended ▸ broken)
    | error e' =>
      rw [ended, Action.bind_of_error (Action.ofResult_of_error rfl)] at broken
      cases broken
      refine ⟨_, Action.bind_of_error (Action.ofResult_of_error rfl), ?_⟩
      intro call member
      obtain ⟨bytes, _, rfl⟩ := List.mem_map.mp member
      exact ⟨_, _, rfl⟩

end Calls

/-! ## Whole copies -/

/-- How a copy goes: what comes of its steps, what it reports, and the calls that it makes. -/
inductive Resource.Goes (r : Resource) : Trial → Result Unit → List SinkCall → Prop where
  | refused (e : Error) :
      Goes r ⟨.error e, r.source, .error e, r.source >>= Source.sized, .error e⟩ (.error e)
        [.newFile r.path r.type r.method (.error e)]
  | unopened (draft : Draft) (e : Error) : r.source = .error e →
      Goes r ⟨.ok draft, .error e, .error e, .error e, .error e⟩ (.error e)
        [.newFile r.path r.type r.method (.ok draft), .abandon draft]
  | broken (draft : Draft) (source : Source) (e : Error) (writes : List SinkCall) :
      r.source = .ok source → (∀ call ∈ writes, call.IsWrite) →
      Goes r ⟨.ok draft, .ok source, .error e, source.sized, .error e⟩ (.error e)
        (.newFile r.path r.type r.method (.ok draft) :: writes ++ [.abandon draft])
  | filled (draft whole : Draft) (source : Source) (committed : Result Unit) :
      r.source = .ok source →
      Goes r ⟨.ok draft, .ok source, .ok whole, source.sized, committed⟩
        (source.sized *> committed)
        (.newFile r.path r.type r.method (.ok draft) ::
          writeCalls (pieces Source.transferUnit source.rest) ++ [.commit whole committed])

section Trials
variable {r : Resource} {source : Source} {draft whole : Draft} {e : Error} {s s₁ s₂ : σ}

theorem trial_refused (opened : Sink.newFile r.path r.type r.method s = .error e s₁) :
    r.trial s = ⟨.error e, r.source, .error e, r.source >>= Source.sized, .error e⟩ := by
  simp only [Resource.trial, Action.perform_of_error opened]
  rfl

theorem trial_unopened (opened : Sink.newFile r.path r.type r.method s = .ok draft s₁)
    (closed : r.source = .error e) :
    r.trial s = ⟨.ok draft, .error e, .error e, .error e, .error e⟩ := by
  simp only [Resource.trial, Action.perform_of_ok opened, closed]
  rfl

theorem trial_broken (opened : Sink.newFile r.path r.type r.method s = .ok draft s₁)
    (found : r.source = .ok source) (breaks : source.pour draft s₁ = .error e s₂) :
    r.trial s = ⟨.ok draft, .ok source, .error e, source.sized, .error e⟩ := by
  have moved : (do
      let draft ← Action.ofResult (.ok draft)
      let source ← Action.ofResult (.ok source)
      source.pour draft : Action σ Draft).perform s₁ = (.error e, s₂) :=
    Action.perform_of_error breaks
  simp only [Resource.trial, Action.perform_of_ok opened, found, moved]
  rfl

theorem trial_filled (opened : Sink.newFile r.path r.type r.method s = .ok draft s₁)
    (found : r.source = .ok source) (poured : source.pour draft s₁ = .ok whole s₂) :
    r.trial s = ⟨.ok draft, .ok source, .ok whole, source.sized,
      ((Sink.commit whole).perform s₂).1⟩ := by
  have moved : (do
      let draft ← Action.ofResult (.ok draft)
      let source ← Action.ofResult (.ok source)
      source.pour draft : Action σ Draft).perform s₁ = (.ok whole, s₂) :=
    Action.perform_of_ok poured
  simp only [Resource.trial, Action.perform_of_ok opened, found, moved]
  rfl

end Trials

/-- An observed copy goes as the same copy does without an observer. -/
theorem copy_goes (r : Resource) (s : σ) : ∃ calls,
    (r.copyTo : Action (Observed σ) Unit).perform ⟨s, []⟩ =
      ((r.copyTo.perform s).1, ⟨(r.copyTo.perform s).2, calls⟩) ∧
    r.Goes (r.trial s) (r.copyTo.perform s).1 calls := by
  cases opened : Sink.newFile r.path r.type r.method s with
  | error e s₁ =>
    have noted : (Sink.newFile r.path r.type r.method : Action (Observed σ) Draft) ⟨s, []⟩ =
        .error e ⟨s₁, [.newFile r.path r.type r.method (.error e)]⟩ :=
      noting_of_error opened (.newFile r.path r.type r.method)
    rw [trial_refused opened, Action.perform_of_error (copyTo_refused opened)]
    exact ⟨_, Action.perform_of_error (copyTo_refused noted), .refused e⟩
  | ok draft s₁ =>
    have noted : (Sink.newFile r.path r.type r.method : Action (Observed σ) Draft) ⟨s, []⟩ =
        .ok draft ⟨s₁, [.newFile r.path r.type r.method (.ok draft)]⟩ :=
      noting_of_ok opened (.newFile r.path r.type r.method)
    cases found : r.source with
    | error e =>
      have watched := copyTo_unopened noted found
      rw [trial_unopened opened found, Action.perform_of_error (copyTo_unopened opened found)]
      exact ⟨_, Action.perform_of_error watched, .unopened draft e found⟩
    | ok source =>
      cases poured : source.pour draft s₁ with
      | error e s₂ =>
        obtain ⟨writes, watched, only⟩ :=
          pour_broken [.newFile r.path r.type r.method (.ok draft)] poured
        have watched := copyTo_broken noted found watched
        rw [trial_broken opened found poured,
          Action.perform_of_error (copyTo_broken opened found poured)]
        exact ⟨_, Action.perform_of_error watched, .broken draft source e writes found only⟩
      | ok whole s₂ =>
        have watched := pour_observed [.newFile r.path r.type r.method (.ok draft)] poured
        have commits := perform_noting (Sink.commit whole) (.commit whole) s₂
          ([.newFile r.path r.type r.method (.ok draft)] ++
            writeCalls (pieces Source.transferUnit source.rest))
        rw [trial_filled opened found poured, copyTo_filled opened found poured]
        refine ⟨_, ?_, .filled draft whole source _ found⟩
        rw [copyTo_filled noted found watched]
        exact congrArg (fun ran => (source.sized *> ran.1, ran.2)) commits

namespace Resource.Goes
variable {r : Resource} {t : Trial} {outcome : Result Unit} {calls : List SinkCall}

theorem verdict (goes : r.Goes t outcome calls) : outcome = t.verdict := by
  cases goes with
  | refused => rfl
  | unopened => rfl
  | broken => rfl
  | filled draft whole source committed =>
    cases source.sized with
    | error e => rfl
    | ok => rfl

theorem commits_iff (goes : r.Goes t outcome calls) : Commits calls ↔
    t.opened.isOk ∧ t.source.isOk ∧ t.moved.isOk ∧ t.committed.isOk := by
  cases goes with
  | refused e => simp [Commits, Except.isOk, Except.toBool]
  | unopened draft e => simp [Commits, Except.isOk, Except.toBool]
  | broken draft source e writes found only =>
    have none (d : Draft) : .commit d (.ok ()) ∉ writes := fun member => by
      obtain ⟨_, _, same⟩ := only _ member
      cases same
    simp [Commits, Except.isOk, Except.toBool, none]
  | filled draft whole source committed =>
    cases committed with
    | error e => simp [Commits, writeCalls, Except.isOk, Except.toBool]
    | ok => simp [Commits, writeCalls, Except.isOk, Except.toBool]

theorem abandons_iff (goes : r.Goes t outcome calls) : Abandons calls ↔
    t.opened.isOk ∧ ¬ (t.source.isOk ∧ t.moved.isOk) := by
  cases goes with
  | refused e => simp [Abandons, Except.isOk, Except.toBool]
  | unopened draft e => simp [Abandons, Except.isOk, Except.toBool]
  | broken draft source e writes found only => simp [Abandons, Except.isOk, Except.toBool]
  | filled draft whole source committed =>
    simp [Abandons, writeCalls, Except.isOk, Except.toBool]

theorem whole (goes : r.Goes t outcome calls) (passed : outcome = .ok ()) :
    ∃ source draft filled, r.source = .ok source ∧
      calls = .newFile r.path r.type r.method (.ok draft) ::
        writeCalls (pieces Source.transferUnit source.rest) ++ [.commit filled (.ok ())] ∧
      source.yielded + source.rest.length = source.declared := by
  cases goes with
  | refused => cases passed
  | unopened => cases passed
  | broken => cases passed
  | filled draft filled source committed found =>
    unfold Source.sized at passed
    split at passed
    · rename_i same
      obtain rfl : committed = .ok () := passed
      exact ⟨source, draft, filled, found, rfl, same⟩
    · cases passed

end Resource.Goes

/-- Copies of any resource to any destination. (1) Observing a copy changes nothing. (2) It reports
the first failure of its steps. (3) It commits its entry just if all steps but the check of the size
succeed, and abandons it just if it is opened and not filled; never both. (4) If it succeeds, what
was written to the entry is what the source yields, and of the declared size. -/
theorem copy_outcome (r : Resource) (s : σ) : ∃ calls,
    (r.copyTo : Action (Observed σ) Unit).perform ⟨s, []⟩ =
      ((r.copyTo.perform s).1, ⟨(r.copyTo.perform s).2, calls⟩) ∧
    (r.copyTo.perform s).1 = (r.trial s).verdict ∧
    ((Commits calls ↔ (r.trial s).opened.isOk ∧ (r.trial s).source.isOk ∧
        (r.trial s).moved.isOk ∧ (r.trial s).committed.isOk) ∧
      (Abandons calls ↔ (r.trial s).opened.isOk ∧
        ¬ ((r.trial s).source.isOk ∧ (r.trial s).moved.isOk)) ∧
      ¬ (Commits calls ∧ Abandons calls)) ∧
    ((r.copyTo.perform s).1 = .ok () → ∃ source draft filled, r.source = .ok source ∧
      calls = .newFile r.path r.type r.method (.ok draft) ::
        writeCalls (pieces Source.transferUnit source.rest) ++ [.commit filled (.ok ())] ∧
      (pieces Source.transferUnit source.rest).flatten = source.rest ∧
      source.yielded + source.rest.length = source.declared) := by
  obtain ⟨calls, watched, goes⟩ := copy_goes r s
  refine ⟨calls, watched, goes.verdict, ⟨goes.commits_iff, goes.abandons_iff, ?_⟩, ?_⟩
  · rintro ⟨commits, abandons⟩
    obtain ⟨_, opens, moves, _⟩ := goes.commits_iff.mp commits
    exact (goes.abandons_iff.mp abandons).2 ⟨opens, moves⟩
  · intro passed
    obtain ⟨source, draft, filled, found, made, sized⟩ := goes.whole passed
    exact ⟨source, draft, filled, found, made, flatten_pieces (by decide) source.rest, sized⟩

end Bindery
