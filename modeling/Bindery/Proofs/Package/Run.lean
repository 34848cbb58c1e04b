import Bindery.Proofs.Package.Close
import Bindery.Proofs.Zip.Archive

/-! Runs of any writer. Its output only grows, and a writer that is lost stays lost. Where every
resource of a run was copied, each of them has an entry and a commit, in their order. -/
namespace Bindery

open Zip (Archive Member Method Output)

theorem length_outcomes {σ : Type} [Sink σ] (steps : List Step) (s : σ) :
    (Step.runAll steps s).1.length = steps.length := by
  induction steps generalizing s with
  | nil => rfl
  | cons step steps ih => exact congrArg (· + 1) (ih (step.run.perform s).2)

theorem map_fst_zip_outcomes {σ : Type} [Sink σ] (steps : List Step) (s : σ) :
    (steps.zip (Step.runAll steps s).1).map Prod.fst = steps :=
  List.map_fst_zip (Nat.le_of_eq (length_outcomes steps s).symm)

theorem runAll_cons {σ : Type} [Sink σ] (step : Step) (steps : List Step) (s : σ) :
    (Step.runAll (step :: steps) s).2 = (Step.runAll steps (step.run.perform s).2).2 := rfl

theorem outcomes_cons {σ : Type} [Sink σ] (step : Step) (steps : List Step) (s : σ) :
    (Step.runAll (step :: steps) s).1 =
      (step.run.perform s).1 :: (Step.runAll steps (step.run.perform s).2).1 := rfl

/-- The entry that a step is to write, if it comes to that. -/
def Step.plan? : Step → Option EntryPlan
  | file plan => some plan
  | mark _ => none
  | copy r =>
    some { path := r.path, type := r.type, method := r.method, chunks := [Writer.copied r] }
  | encrypt cipher r => r.content.toOption.map fun plain =>
    { path := r.path, type := r.type, method := .stored, chunks := [cipher.encrypt plain] }

theorem Step.opens?_eq (step : Step) : step.opens? = step.plan?.map EntryPlan.path := by
  cases step with
  | file plan => rfl
  | mark m => rfl
  | copy r => rfl
  | encrypt cipher r =>
    change (if r.content.isOk then some r.path else none) =
      (r.content.toOption.map _).map EntryPlan.path
    cases r.content with
    | ok plain => rfl
    | error e => rfl

def Resource.status (r : Resource) : String × Bool := (r.path, r.isEncrypted)

namespace Writer

variable {α : Type} [Ledger α] {w : Writer α}

theorem output_mark (w : Writer α) (m : Mark) : ((mark m).perform w).2.output = w.output := by
  obtain ⟨ledger, same, _⟩ := mark_keeps w m
  rw [same]

theorem abandoned_mark (w : Writer α) (m : Mark) :
    ((mark m).perform w).2.abandoned = w.abandoned := by
  obtain ⟨ledger, same, _⟩ := mark_keeps w m
  rw [same]

theorem Doomed.mark (doomed : w.Doomed) (m : Mark) : ((mark m).perform w).2.Doomed := by
  unfold Doomed
  rw [output_mark, abandoned_mark]
  exact doomed

inductive Noted (w : Writer α) : Writer α → Prop where
  | same : Noted w w
  | mark (m : Mark) : Noted w ((mark m).perform w).2

theorem Noted.output {w' : Writer α} (noted : Noted w w') : w'.output = w.output := by
  cases noted with
  | same => rfl
  | mark m => exact output_mark w m

theorem Noted.extends {w' : Writer α} (noted : Noted w w') :
    Output.Extends w.output w'.output :=
  noted.output ▸ Output.Extends.refl _

theorem Noted.doomed {w' : Writer α} (noted : Noted w w') (doomed : w.Doomed) : w'.Doomed := by
  cases noted with
  | same => exact doomed
  | mark m => exact doomed.mark m

/-- A step is an attempt to write the entry that it plans, if it plans one, and at most a mark. -/
theorem step_cases (w : Writer α) (step : Step) :
    (step.plan? = none ∧ Noted w (step.run.perform w).2) ∨
    ∃ plan outcome v, step.plan? = some plan ∧
      Entered w plan.path plan.type plan.method plan.chunks.flatten outcome v ∧
      Noted v (step.run.perform w).2 := by
  cases step with
  | file plan => exact .inr ⟨plan, _, _, rfl, entered_file w plan, .same⟩
  | mark m => exact .inl ⟨rfl, .mark m⟩
  | copy r =>
    obtain ⟨outcome, entered, _⟩ := enters_copy w r
    exact .inr ⟨_, outcome, _, rfl, by simpa using entered, .same⟩
  | encrypt cipher r =>
    have plans : (Step.encrypt cipher r).plan? = r.content.toOption.map fun plain =>
        { path := r.path, type := r.type, method := .stored, chunks := [cipher.encrypt plain] } :=
      rfl
    rw [plans]
    rcases encrypt_cases w cipher r with ⟨e, reads, performed⟩ |
      ⟨plain, reads, outcome, v, entered, performed⟩
    · rw [performed, reads]
      exact .inl ⟨rfl, .same⟩
    · rw [performed, reads]
      refine .inr ⟨_, outcome, v, rfl, by simpa using entered, ?_⟩
      cases outcome with
      | ok => exact .mark _
      | error e => exact .same

theorem extends_step (w : Writer α) (step : Step) :
    Output.Extends w.output (step.run.perform w).2.output := by
  rcases step_cases w step with ⟨_, noted⟩ | ⟨plan, outcome, v, _, entered, noted⟩
  · exact noted.extends
  · exact entered.extends.trans noted.extends

theorem doomed_step (doomed : w.Doomed) (step : Step) : (step.run.perform w).2.Doomed := by
  rcases step_cases w step with ⟨_, noted⟩ | ⟨plan, outcome, v, _, entered, noted⟩
  · exact noted.doomed doomed
  · exact noted.doomed (entered.doomed doomed)

theorem doomed_runAll (steps : List Step) (doomed : w.Doomed) : (Step.runAll steps w).2.Doomed := by
  induction steps generalizing w with
  | nil => exact doomed
  | cons step steps ih => exact ih (doomed_step doomed step)

/-! ## What all ledgers of a run have in common -/

structure Lasts (P : α → Prop) : Prop where
  commit : ∀ {ledger : α} (draft : Draft), P ledger → P (Ledger.commit draft ledger)
  mark : ∀ {settings : Settings} {m : Mark} {ledger marked : α}, P ledger →
    Ledger.mark? settings m ledger = some (.ok marked) → P marked

section
variable {P : α → Prop} {v : Writer α}

theorem Noted.lasts (noted : Noted w v) (lasts : Lasts P) (holds : P w.ledger) : P v.ledger := by
  cases noted with
  | same => exact holds
  | mark m =>
    obtain ⟨ledger, same, kept | recorded⟩ := mark_keeps w m
    · rw [same, kept]
      exact holds
    · rw [same]
      exact lasts.mark holds recorded

theorem Entered.lasts {path type : String} {method : Method} {content : Bytes}
    {outcome : Result Unit} (entered : Entered w path type method content outcome v)
    (lasts : Lasts P) (holds : P w.ledger) : v.Doomed ∨ P v.ledger := by
  cases entered with
  | lost doomed => exact .inl doomed
  | repeated => exact .inr holds
  | unsigned => exact .inr holds
  | stray => exact .inr holds
  | @committed draft => exact .inr (lasts.commit draft holds)

theorem lasts_step (lasts : Lasts P) (holds : P w.ledger) (step : Step) :
    (step.run.perform w).2.Doomed ∨ P (step.run.perform w).2.ledger := by
  rcases step_cases w step with ⟨_, noted⟩ | ⟨plan, outcome, v, _, entered, noted⟩
  · exact .inr (noted.lasts lasts holds)
  · exact (entered.lasts lasts holds).imp noted.doomed (noted.lasts lasts)

theorem lasts_runAll (lasts : Lasts P) (steps : List Step) (holds : P w.ledger) :
    (Step.runAll steps w).2.Doomed ∨ P (Step.runAll steps w).2.ledger := by
  induction steps generalizing w with
  | nil => exact .inr holds
  | cons step steps ih =>
    rcases lasts_step lasts holds step with doomed | holds
    · exact .inl (doomed_runAll steps doomed)
    · exact ih holds

end

/-! ## Copies -/

def copyOf (r : Resource) : Member := .ofContent r.path r.method (copied r)

def labelOf (draft : Draft) : String × String := (draft.path, draft.type)

theorem Entered.ok {archive : Archive} {w' : Writer α} {path type : String} {method : Method}
    {content : Bytes} (slots : w.output.settle.slots = archive.map .member)
    (entered : Entered w path type method content (.ok ()) w') :
    w'.Doomed ∨ ∃ draft : Draft, labelOf draft = (path, type) ∧ path ∉ archive.map Member.name ∧
      w'.output.settle.slots = (archive ++ [Member.ofContent path method content]).map .member ∧
      w'.ledger = Ledger.commit draft w.ledger ∧ w'.settings = w.settings := by
  cases entered with
  | lost doomed => exact .inl doomed
  | @committed draft _ fresh path type =>
    rw [Output.names_of_slots slots] at fresh
    exact .inr ⟨draft, by rw [labelOf, path, type], fresh, by simp [slots], rfl, rfl⟩

theorem Entered.grown {archive : Archive} {w' : Writer α} {path type : String} {method : Method}
    {content : Bytes} {outcome : Result Unit} (slots : w.output.settle.slots = archive.map .member)
    (entered : Entered w path type method content outcome w') :
    w'.Doomed ∨ ∃ added : Archive, w'.output.settle.slots = (archive ++ added).map .member ∧
      (∀ m ∈ added, m.name = path) ∧
      (w'.ledger = w.ledger ∨ ∃ draft, w'.ledger = Ledger.commit draft w.ledger) := by
  have named : ∀ m ∈ [Member.ofContent path method content], m.name = path :=
    List.forall_mem_singleton.mpr rfl
  cases entered with
  | lost doomed => exact .inl doomed
  | repeated => exact .inr ⟨[], by simpa using slots, by simp, .inl rfl⟩
  | unsigned =>
    refine .inr ⟨[], ?_, by simp, .inl rfl⟩
    rw [List.append_nil, ← slots, Output.settle_settled]
  | stray => exact .inr ⟨_, by simp [slots], named, .inl rfl⟩
  | @committed draft => exact .inr ⟨_, by simp [slots], named, .inr ⟨draft, rfl⟩⟩

theorem copy_ok {archive : Archive} {r : Resource}
    (slots : w.output.settle.slots = archive.map .member)
    (reported : ((Step.copy r).run.perform w).1 = .ok ()) :
    ((Step.copy r).run.perform w).2.Doomed ∨
    ∃ draft : Draft, labelOf draft = (r.path, r.type) ∧ r.path ∉ archive.map Member.name ∧
      ((Step.copy r).run.perform w).2.output.settle.slots = (archive ++ [copyOf r]).map .member ∧
      ((Step.copy r).run.perform w).2.ledger = Ledger.commit draft w.ledger := by
  obtain ⟨outcome, entered, honest⟩ := enters_copy w r
  obtain rfl := honest reported
  rcases entered.ok slots with doomed | ⟨draft, label, fresh, first, ledger, _⟩
  · exact .inl doomed
  · exact .inr ⟨draft, label, fresh, first, ledger⟩

def committed (drafts : List Draft) (ledger : α) : α :=
  drafts.foldl (fun ledger draft => Ledger.commit draft ledger) ledger

theorem copies_ok (order : List Resource) {archive : Archive}
    (slots : w.output.settle.slots = archive.map .member)
    (reported : ∀ outcome ∈ (Step.runAll (order.map .copy) w).1, outcome = .ok ()) :
    (Step.runAll (order.map .copy) w).2.Doomed ∨
    ∃ drafts : List Draft, drafts.map labelOf = (order.map fun r => (r.path, r.type)) ∧
      (Step.runAll (order.map .copy) w).2.output.settle.slots =
        (archive ++ order.map copyOf).map .member ∧
      ((archive.map Member.name).Nodup →
        ((archive ++ order.map copyOf).map Member.name).Nodup) ∧
      (Step.runAll (order.map .copy) w).2.ledger = committed drafts w.ledger := by
  induction order generalizing w archive with
  | nil =>
    refine .inr ⟨[], rfl, ?_, ?_, rfl⟩
    · rw [List.map_nil, List.map_nil, List.append_nil]
      exact slots
    · rw [List.map_nil, List.append_nil]
      exact id
  | cons r order ih =>
    rw [List.map_cons] at reported ⊢
    rw [outcomes_cons, List.forall_mem_cons] at reported
    rw [runAll_cons]
    rcases copy_ok slots reported.1 with doomed | ⟨draft, label, fresh, first, ledger⟩
    · exact .inl (doomed_runAll _ doomed)
    rcases ih first reported.2 with doomed | ⟨drafts, labels, rest, others, ledgers⟩
    · exact .inl doomed
    rw [List.append_assoc, List.singleton_append] at rest others
    refine .inr ⟨draft :: drafts, ?_, rest, ?_, ?_⟩
    · rw [List.map_cons, label, labels, List.map_cons]
    · exact fun distinct => others (Archive.nodup_behind fresh distinct)
    · rw [ledgers, ledger]
      rfl

/-- Every resource is copied with success, in some order, and the writer is closed with success. -/
structure CopiesAll (w : Writer α) (resources order : List Resource) : Prop where
  whole : order.Perm resources
  reported : ∀ outcome ∈ (Step.runAll (order.map .copy) w).1, outcome = .ok ()
  closed : (close (Step.runAll (order.map .copy) w).2).outcome = .ok ()

def behindCopies (w : Writer α) (order : List Resource) : Writer α :=
  (Step.runAll (order.map .copy) w).2

/-- What is left where every resource was copied: the archive from before, the copies, and the
document of a ledger in which each copy is committed. -/
theorem CopiesAll.archive {resources order : List Resource} {archive : Archive}
    (all : w.CopiesAll resources order) (slots : w.output.settle.slots = archive.map .member) :
    ∃ drafts : List Draft, drafts.map labelOf = (order.map fun r => (r.path, r.type)) ∧
      (w.behindCopies order).ledger = committed drafts w.ledger ∧
      (close (w.behindCopies order)).archive = some (archive ++ order.map copyOf ++
        (Ledger.document? (committed drafts w.ledger)).toList.map LedgerDocument.member) ∧
      ((archive.map Member.name).Nodup →
        ((archive ++ order.map copyOf).map Member.name).Nodup) ∧
      ∀ d ∈ Ledger.document? (committed drafts w.ledger),
        d.location ∉ (archive ++ order.map copyOf).map Member.name := by
  rcases copies_ok order slots all.reported with doomed | ⟨drafts, labels, rest, distinct, ledger⟩
  · exact absurd all.closed (not_closed_of_doomed doomed)
  obtain ⟨left, fresh⟩ := archive_of_close rest all.closed
  rw [ledger] at left fresh
  exact ⟨drafts, labels, ledger, left, distinct, fun d given => (fresh d given).1⟩

theorem opens_of_copied {r : Resource} (reported : ((Step.copy r).run.perform w).1 = .ok ()) :
    ∃ source, r.source = .ok source := by
  have reported : ((Resource.copyTo r : Action (Writer α) Unit).perform w).1 = .ok () := reported
  obtain ⟨_, ran⟩ := Action.ok_of_perform reported
  obtain ⟨draft, _, _, ran⟩ := Action.bind_ok ran
  obtain ⟨_, _, moved, _⟩ := Action.bind_ok ran
  obtain ⟨source, _, opens, _⟩ := Action.bind_ok (Action.ok_of_onFault moved)
  exact ⟨source, (Action.eq_of_ofResult opens).2⟩

theorem opens_of_copies {order : List Resource}
    (reported : ∀ outcome ∈ (Step.runAll (order.map .copy) w).1, outcome = .ok ()) :
    ∀ r ∈ order, ∃ source, r.source = .ok source := by
  induction order generalizing w with
  | nil => simp
  | cons r order ih =>
    rw [List.map_cons, outcomes_cons, List.forall_mem_cons] at reported
    exact List.forall_mem_cons.mpr ⟨opens_of_copied reported.1, ih reported.2⟩

section
variable {archive : Archive}

theorem grown_step (slots : w.output.settle.slots = archive.map .member) (step : Step) :
    (step.run.perform w).2.Doomed ∨ ∃ added : Archive,
      (step.run.perform w).2.output.settle.slots = (archive ++ added).map .member := by
  rcases step_cases w step with ⟨_, noted⟩ | ⟨plan, outcome, v, _, entered, noted⟩
  · refine .inr ⟨[], ?_⟩
    rw [noted.output, List.append_nil]
    exact slots
  · rcases entered.grown slots with doomed | ⟨added, grown, _⟩
    · exact .inl (noted.doomed doomed)
    · exact .inr ⟨added, by rw [noted.output, grown]⟩

theorem copied_step (slots : w.output.settle.slots = archive.map .member) (step : Step)
    (reported : (step.run.perform w).1 = .ok ()) :
    (step.run.perform w).2.Doomed ∨ ∃ added : Archive,
      (step.run.perform w).2.output.settle.slots = (archive ++ added).map .member ∧
      ∀ r, step = .copy r → copyOf r ∈ added := by
  by_cases copies : ∃ r, step = .copy r
  · obtain ⟨r, rfl⟩ := copies
    rcases copy_ok slots reported with doomed | ⟨_, _, _, grown, _⟩
    · exact .inl doomed
    · refine .inr ⟨[copyOf r], grown, ?_⟩
      rintro _ ⟨⟩
      exact List.mem_cons_self
  · rcases grown_step slots step with doomed | ⟨added, grown⟩
    · exact .inl doomed
    · exact .inr ⟨added, grown, fun r same => absurd ⟨r, same⟩ copies⟩

theorem copied_runAll (steps : List Step) (slots : w.output.settle.slots = archive.map .member)
    (reported : ∀ outcome ∈ (Step.runAll steps w).1, outcome = .ok ()) :
    (Step.runAll steps w).2.Doomed ∨ ∃ added : Archive,
      (Step.runAll steps w).2.output.settle.slots = (archive ++ added).map .member ∧
      ∀ r, Step.copy r ∈ steps → copyOf r ∈ added := by
  induction steps generalizing w archive with
  | nil =>
    refine .inr ⟨[], ?_, fun r none => absurd none List.not_mem_nil⟩
    rw [List.append_nil]
    exact slots
  | cons step steps ih =>
    rw [outcomes_cons, List.forall_mem_cons] at reported
    rw [runAll_cons]
    rcases copied_step slots step reported.1 with doomed | ⟨first, grown, here⟩
    · exact .inl (doomed_runAll steps doomed)
    rcases ih grown reported.2 with doomed | ⟨rest, later, others⟩
    · exact .inl doomed
    rw [List.append_assoc] at later
    refine .inr ⟨first ++ rest, later, fun r copied => List.mem_append.mpr ?_⟩
    rcases List.mem_cons.mp copied with same | behind
    · exact .inl (here r same.symm)
    · exact .inr (others r behind)

end

end Writer
end Bindery
