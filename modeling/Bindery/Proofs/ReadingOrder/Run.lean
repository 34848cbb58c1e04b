import Bindery.Proofs.Package.Run
import Bindery.ReadingOrder.Package

/-! Runs of a writer of reading-order packages. A step loses the writer for good, or it adds the
entries that it opens to the archive and, if the device can be flushed, to the reading order. -/
namespace Bindery.ReadingOrder

open Zip (Archive Member Method Output)

theorem nodup_eraseDups (names : List String) : names.eraseDups.Nodup := by
  match names with
  | [] => exact List.nodup_nil
  | name :: rest =>
    rw [List.eraseDups_cons, List.nodup_cons, List.mem_eraseDups]
    exact ⟨by simp, nodup_eraseDups (rest.filter fun other => !other == name)⟩
termination_by names.length
decreasing_by exact Nat.lt_succ_of_le (List.length_filter_le _ _)

/-- A writer that goes on from an archive, with nothing committed. -/
def writerBehind (present : Archive) (device : Device) (p : Publication) (settings : Settings) :
    Writer Ledger :=
  { output := { device, slots := present.map .member }, ledger := .ofPublication p, settings }

def Package.takenOver (p : Package) (name : String) : Result Member := do
  let entry ← p.archive.entry name
  let m ← p.archive.memberOf entry
  return { m with encrypted := false }

namespace Package

variable {p : Package}

theorem takenOver_ok {name : String} {m : Member} (taken : p.takenOver name = .ok m) :
    m.name = name ∧ ∃ entry source, p.archive.entry? name = some entry ∧
      p.archive.memberOf entry = .ok source ∧ m = { source with encrypted := false } := by
  obtain ⟨entry, found, taken⟩ := ok_of_bind taken
  obtain ⟨source, held, same⟩ := ok_of_bind taken
  cases same
  have found := Archive.entry_eq_ok_iff.mp found
  obtain ⟨_, same, _, named, _⟩ := Archive.member_of_entry? found
  cases held.symm.trans same
  exact ⟨named, entry, source, found, held, rfl⟩

theorem names_of_takenOver {names : List String} {present : Archive}
    (taken : names.mapM p.takenOver = .ok present) : present.map Member.name = names :=
  map_back_of_mapM taken fun _ _ here => (takenOver_ok here).1

theorem nodup_carried (p : Package) : p.carried.Nodup := nodup_eraseDups _

end Package

theorem carry_ok {p : Package} {name : String} {present : Archive} {device : Device} {o : Output}
    (carried : p.carry name { device, slots := present.map .member } = .ok () o) :
    ∃ m, p.takenOver name = .ok m ∧ o = { device, slots := (present ++ [m]).map .member } := by
  obtain ⟨entry, _, found, first⟩ := Action.bind_ok carried
  obtain ⟨m, _, read, first⟩ := Action.bind_ok first
  obtain ⟨rfl, here⟩ := Action.eq_of_ofResult found
  obtain ⟨rfl, member⟩ := Action.eq_of_ofResult read
  obtain ⟨_, rfl⟩ := Output.copyMember_ok first
  refine ⟨{ m with encrypted := false }, ?_, by simp [Output.settle, Output.push]⟩
  unfold Package.takenOver
  rw [bind_of_eq_ok here, bind_of_eq_ok member]
  rfl

theorem forM_carry_ok {p : Package} {names : List String} {present : Archive} {device : Device}
    {o : Output}
    (carried : (names.forM p.carry : Action Output Unit)
      { device, slots := present.map .member } = .ok () o) :
    ∃ more : Archive, names.mapM p.takenOver = .ok more ∧
      o = { device, slots := (present ++ more).map .member } := by
  induction names generalizing present with
  | nil =>
    cases carried
    exact ⟨[], rfl, by rw [List.append_nil]⟩
  | cons name names ih =>
    have chain : (p.carry name >>= fun _ => names.forM p.carry) _ = .ok () o := carried
    obtain ⟨_, between, first, rest⟩ := Action.bind_ok chain
    obtain ⟨m, taken, rfl⟩ := carry_ok first
    obtain ⟨more, others, rfl⟩ := ih rest
    refine ⟨m :: more, ?_, by simp⟩
    rw [List.mapM_cons, bind_of_eq_ok taken, bind_of_eq_ok others]
    rfl

theorem newWriter_behind {p : Package} {device : Device} {w : Writer Ledger}
    (started : p.newWriter device = .ok w) :
    ∃ present, p.carried.mapM p.takenOver = .ok present ∧
      w = writerBehind present device p.publication p.settings := by
  unfold Package.newWriter at started
  cases carried : (p.carried.forM p.carry : Action Output Unit) { device } with
  | error e o =>
    simp only [Action.perform_of_error carried] at started
    cases started
  | ok _ o =>
    have begun : (p.carried.forM p.carry : Action Output Unit)
        { device, slots := List.map .member ([] : Archive) } = .ok () o := carried
    obtain ⟨present, taken, rfl⟩ := forM_carry_ok begun
    simp only [Action.perform_of_ok carried] at started
    cases started
    exact ⟨present, taken, rfl⟩

def Ledger.hrefs (ledger : Ledger) : List String := ledger.publication.readingOrder.map Link.href

theorem href_linkFor (ledger : Ledger) (draft : Draft) :
    (ledger.linkFor draft).href = draft.path := by
  unfold Ledger.linkFor
  split
  · rename_i link found
    have same := List.find?_some found
    simpa [Link.carriedOver] using same
  · rfl

theorem hrefs_commit (ledger : Ledger) (draft : Draft) :
    (ledger.commit draft).hrefs = ledger.hrefs ++ [draft.path] := by
  simp [Ledger.hrefs, Ledger.commit, href_linkFor]

theorem map_href_updateFirst (href : String) (p : Protection) (links : List Link) :
    (Publication.updateFirst href (·.protect p) links).map Link.href = links.map Link.href := by
  induction links with
  | nil => rfl
  | cons link links ih =>
    by_cases here : link.href = href
    · simp [Publication.updateFirst, here, Link.protect]
    · simp [Publication.updateFirst, here, ih]

theorem hrefs_mark {settings : Settings} {m : Mark} {ledger marked : Ledger}
    (recorded : Ledger.mark? settings m ledger = some (.ok marked)) :
    marked.hrefs = ledger.hrefs := by
  unfold Ledger.mark? at recorded
  obtain ⟨link, _, same⟩ := Option.map_eq_some_iff.mp recorded
  cases same
  exact map_href_updateFirst m.path _ _

/-- A writer that is not closed with success, whatever steps follow. -/
def Lost (w : Writer Ledger) : Prop :=
  w.Doomed ∨ w.output.device.refuses Zip.localSignature = true

/-- `w'` has come about from `w`, which held the members of `archive`, by entries that became the
members of `added`. They are linked if the device can be flushed. -/
structure Progress (w w' : Writer Ledger) (archive added : Archive) : Prop where
  grown : Output.Extends w.output w'.output
  slots : w'.output.settle.slots = (archive ++ added).map .member
  hrefs : w'.ledger.hrefs = w.ledger.hrefs ++
    if w.output.device.refusesFlush then [] else added.map Member.name

variable {w w' w'' : Writer Ledger} {archive added more : Archive}

theorem Progress.trans (first : Progress w w' archive added)
    (second : Progress w' w'' (archive ++ added) more) :
    Progress w w'' archive (added ++ more) where
  grown := first.grown.trans second.grown
  slots := by rw [second.slots, List.append_assoc]
  hrefs := by
    rw [second.hrefs, first.hrefs, first.grown.refusesFlush]
    cases w.output.device.refusesFlush with
    | true => simp
    | false => simp

theorem Progress.still (slots : w.output.settle.slots = archive.map .member)
    (ledger : Ledger) (same : ledger.hrefs = w.ledger.hrefs) :
    Progress w { w with ledger } archive [] where
  grown := Output.Extends.refl _
  slots := by rw [List.append_nil, slots]
  hrefs := by simp [same]

def newEntry (archive : Archive) (plan : EntryPlan) : Archive :=
  if plan.path ∈ archive.map Member.name then []
  else [.ofContent plan.path plan.method plan.chunks.flatten]

def newEntries : Archive → List Step → Archive
  | _, [] => []
  | archive, step :: steps =>
    let added := step.plan?.elim [] (newEntry archive)
    added ++ newEntries (archive ++ added) steps

/-- An attempt to write an entry loses the writer, or adds the entry unless its name is taken. -/
theorem progress_of_entered {plan : EntryPlan} {outcome : Result Unit}
    (slots : w.output.settle.slots = archive.map .member)
    (entered : Writer.Entered w plan.path plan.type plan.method plan.chunks.flatten outcome w') :
    Lost w' ∨ Progress w w' archive (newEntry archive plan) := by
  have names := Output.names_of_slots slots
  have grown := entered.extends
  unfold newEntry
  cases entered with
  | lost doomed => exact .inl (.inl doomed)
  | unsigned _ _ signature => exact .inl (.inr ((grown.refuses _).trans signature))
  | repeated taken =>
    rw [if_pos (names ▸ taken)]
    exact .inr ⟨grown, by simpa using slots, by simp⟩
  | stray refused fresh =>
    rw [if_neg (names ▸ fresh)]
    exact .inr ⟨grown, by simp [slots], by simp [refused]⟩
  | @committed draft taken fresh same _ =>
    have linked : (Bindery.Ledger.commit draft w.ledger).hrefs = _ := hrefs_commit w.ledger draft
    rw [if_neg (names ▸ fresh)]
    exact .inr ⟨grown, by simp [slots], by simp [linked, taken, same]⟩

theorem progress_of_noted (slots : w.output.settle.slots = archive.map .member)
    (noted : Writer.Noted w w') : Progress w w' archive [] := by
  cases noted with
  | same => exact Progress.still slots w.ledger rfl
  | mark m =>
    obtain ⟨ledger, same, kept | recorded⟩ := Writer.mark_keeps w m
    · rw [same]
      exact Progress.still slots ledger (by rw [kept])
    · rw [same]
      exact Progress.still slots ledger (hrefs_mark recorded)

theorem lost_step (lost : Lost w) (step : Step) : Lost (step.run.perform w).2 := by
  rcases lost with doomed | signature
  · exact .inl (Writer.doomed_step doomed step)
  · exact .inr (((Writer.extends_step w step).refuses _).trans signature)

theorem lost_of_noted (lost : Lost w) (noted : Writer.Noted w w') : Lost w' := by
  rcases lost with doomed | signature
  · exact .inl (noted.doomed doomed)
  · exact .inr ((noted.extends.refuses _).trans signature)

theorem progress_step (slots : w.output.settle.slots = archive.map .member) (step : Step) :
    Lost (step.run.perform w).2 ∨
      Progress w (step.run.perform w).2 archive (step.plan?.elim [] (newEntry archive)) := by
  rcases Writer.step_cases w step with ⟨none, noted⟩ | ⟨plan, outcome, v, plans, entered, noted⟩
  · rw [none]
    exact .inr (progress_of_noted slots noted)
  · rw [plans]
    rcases progress_of_entered slots entered with lost | progress
    · exact .inl (lost_of_noted lost noted)
    · have behind := progress.trans (progress_of_noted progress.slots noted)
      rw [List.append_nil] at behind
      exact .inr behind

theorem lost_runAll (steps : List Step) (lost : Lost w) : Lost (Step.runAll steps w).2 := by
  induction steps generalizing w with
  | nil => exact lost
  | cons step steps ih => exact ih (lost_step lost step)

theorem progress_newEntries (steps : List Step)
    (slots : w.output.settle.slots = archive.map .member) :
    Lost (Step.runAll steps w).2 ∨
      Progress w (Step.runAll steps w).2 archive (newEntries archive steps) := by
  induction steps generalizing w archive with
  | nil => exact .inr (Progress.still slots w.ledger rfl)
  | cons step steps ih =>
    rcases progress_step slots step with lost | progress
    · exact .inl (lost_runAll steps lost)
    rcases ih progress.slots with lost | later
    · exact .inl lost
    · exact .inr (progress.trans later)

theorem newEntries_eq_nil_iff (archive : Archive) (steps : List Step) :
    newEntries archive steps = [] ↔
      ∀ step ∈ steps, ∀ path ∈ step.opens?, path ∈ archive.map Member.name := by
  induction steps with
  | nil => simp [newEntries]
  | cons step steps ih =>
    have first : step.plan?.elim [] (newEntry archive) = [] ↔
        ∀ path ∈ step.opens?, path ∈ archive.map Member.name := by
      rw [Step.opens?_eq]
      cases step.plan? with
      | none => simp
      | some plan => simp [newEntry]
    rw [newEntries, List.append_eq_nil_iff, List.forall_mem_cons, ← first, ← ih]
    refine and_congr_right fun none => ?_
    rw [none, List.append_nil]

/-- A whole run loses the writer or adds entries. It adds none only if no step opens an entry whose
name was not there when the run began. -/
theorem progress_runAll (steps : List Step) (slots : w.output.settle.slots = archive.map .member) :
    Lost (Step.runAll steps w).2 ∨ ∃ added, Progress w (Step.runAll steps w).2 archive added ∧
      (added = [] ↔
        ∀ step ∈ steps, ∀ path ∈ step.opens?, path ∈ archive.map Member.name) := by
  rcases progress_newEntries steps slots with lost | progress
  · exact .inl lost
  · exact .inr ⟨_, progress, newEntries_eq_nil_iff archive steps⟩

theorem not_closed_of_lost (lost : Lost w) : (Writer.close w).outcome ≠ .ok () := by
  intro closed
  rcases lost with doomed | signature
  · exact Writer.not_closed_of_doomed doomed closed
  · obtain ⟨w', o, written, _⟩ := Writer.close_ok closed
    have started := (Writer.writeDocument_ok written).2.2.1
    rw [signature] at started
    cases started

end Bindery.ReadingOrder
