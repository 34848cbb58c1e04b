import Bindery.Proofs.ReadingOrder.Run
import Bindery.Proofs.Zip.Stored

/-! What a whole run means on a device that refuses nothing: which entries the archive has behind
it, and which link each of them has in the reading order. Only the steps and what came of them are
looked at. -/
namespace Bindery

/-- Steps that write an entry of their own or mark one. -/
def Step.IsDirect : Step → Prop
  | file _ => True
  | mark _ => True
  | copy _ => False
  | encrypt .. => False

/-- The entries that were finished in a run, each with the steps behind it. -/
def finished : List (Step × Result Unit) → List (EntryPlan × List Step)
  | [] => []
  | (.file plan, .ok ()) :: rest => (plan, rest.map Prod.fst) :: finished rest
  | _ :: rest => finished rest

def lastMark? (path : String) : List Step → Option Mark
  | [] => none
  | .mark m :: rest => lastMark? path rest <|> if m.path = path then some m else none
  | _ :: rest => lastMark? path rest

namespace ReadingOrder

open Zip (Archive Member Method Output)

def propertiesOf (protection : Option Protection) (extra : Json.Members) : Option Properties :=
  if protection.isNone && extra.isEmpty then none else some { protection, extra }

/-- The link for an entry: its members and its other properties are those of the link with its path
at the source, and its protection is the one that the mark stands for. -/
def outgoingLink (settings : Settings) (source : Option Link) (path type : String)
    (m : Option Mark) : Link where
  href := path
  type := type
  properties := propertiesOf (m.map (Ledger.protectionOf settings))
    ((source.bind (·.properties)).elim [] (·.extra))
  extra := source.elim [] (·.extra)

def entryOf (plan : EntryPlan) : Member := .ofContent plan.path plan.method plan.chunks.flatten

theorem protect_propertiesOf (before : Option Protection) (extra : Json.Members)
    (p : Protection) :
    some { (propertiesOf before extra).getD {} with protection := some p } =
      propertiesOf (some p) extra := by
  cases before with
  | some q => simp [propertiesOf]
  | none =>
    cases extra with
    | nil => simp [propertiesOf]
    | cons member extra => simp [propertiesOf]

theorem protect_outgoingLink (settings : Settings) (source : Option Link) (path type : String)
    (before : Option Mark) (m : Mark) :
    (outgoingLink settings source path type before).protect (Ledger.protectionOf settings m) =
      outgoingLink settings source path type (some m) := by
  simp only [Link.protect, outgoingLink, protect_propertiesOf, Option.map_some]

theorem linkFor_eq (settings : Settings) (ledger : Ledger) (draft : Draft) :
    ledger.linkFor draft = outgoingLink settings
      (ledger.sourceLinks.find? (·.href = draft.path)) draft.path draft.type none := by
  unfold Ledger.linkFor
  cases found : ledger.sourceLinks.find? (·.href = draft.path) with
  | none => rfl
  | some link =>
    have same : link.href = draft.path := by simpa using List.find?_some found
    obtain ⟨href, type, properties, extra⟩ := link
    subst same
    cases properties with
    | none => rfl
    | some properties =>
      obtain ⟨protection, others⟩ := properties
      cases others with
      | nil => rfl
      | cons member others => rfl

/-! ## Marks -/

def markedBy (settings : Settings) (m : Mark) (link : Link) : Link :=
  if link.href = m.path then link.protect (Ledger.protectionOf settings m) else link

def markedBehind (settings : Settings) (steps : List Step) (link : Link) : Link :=
  match lastMark? link.href steps with
  | none => link
  | some m => link.protect (Ledger.protectionOf settings m)

theorem markedBehind_mark (settings : Settings) (m : Mark) (steps : List Step) (link : Link) :
    markedBehind settings (.mark m :: steps) link =
      markedBehind settings steps (markedBy settings m link) := by
  unfold markedBy
  by_cases here : link.href = m.path
  · rw [if_pos here]
    have there : (link.protect (Ledger.protectionOf settings m)).href = link.href := rfl
    unfold markedBehind
    rw [there, here]
    cases last : lastMark? m.path steps with
    | none => simp [lastMark?, last]
    | some later => simp [lastMark?, last, Link.protect]
  · rw [if_neg here]
    have other : m.path ≠ link.href := fun same => here same.symm
    cases last : lastMark? link.href steps with
    | none => simp [markedBehind, lastMark?, last, other]
    | some later => simp [markedBehind, lastMark?, last]

theorem markedBehind_outgoingLink (settings : Settings) (source : Option Link)
    (path type : String) (steps : List Step) :
    markedBehind settings steps (outgoingLink settings source path type none) =
      outgoingLink settings source path type (lastMark? path steps) := by
  have here : (outgoingLink settings source path type none).href = path := rfl
  unfold markedBehind
  rw [here]
  cases lastMark? path steps with
  | none => rfl
  | some m => exact protect_outgoingLink settings source path type none m

/-- Where no path is linked twice, the first link to a path is the only one. -/
theorem updateFirst_eq_map (href : String) (change : Link → Link) (links : List Link)
    (distinct : (links.map Link.href).Nodup) :
    Publication.updateFirst href change links =
      links.map fun link => if link.href = href then change link else link := by
  induction links with
  | nil => rfl
  | cons link links ih =>
    obtain ⟨apart, distinct⟩ := List.nodup_cons.mp distinct
    by_cases here : link.href = href
    · have others : ∀ l ∈ links, (if l.href = href then change l else l) = l := by
        intro l member
        have : l.href ≠ href := fun same =>
          apart (here.trans same.symm ▸ List.mem_map_of_mem member)
        rw [if_neg this]
      rw [List.map_cons, List.map_congr_left others]
      simp [Publication.updateFirst, here]
    · simp [Publication.updateFirst, here, ih distinct]

def Ledger.withLinks (ledger : Ledger) (links : List Link) : Ledger :=
  { ledger with publication := { ledger.publication with readingOrder := links } }

theorem mark_links (w : Writer Ledger) (m : Mark) (distinct : w.ledger.hrefs.Nodup) :
    ((Writer.mark m).perform w).2 = { w with
      ledger := w.ledger.withLinks
        (w.ledger.publication.readingOrder.map (markedBy w.settings m)) } := by
  have marked : Bindery.Ledger.mark? w.settings m w.ledger =
      Ledger.mark? w.settings m w.ledger := rfl
  rw [Writer.perform_mark, marked, Ledger.mark?]
  cases found : w.ledger.publication.link? m.path with
  | some link =>
    have changed := updateFirst_eq_map m.path (·.protect (Ledger.protectionOf w.settings m))
      w.ledger.publication.readingOrder distinct
    simp only [Option.map_some, Publication.protect, changed]
    rfl
  | none =>
    have others : ∀ link ∈ w.ledger.publication.readingOrder,
        markedBy w.settings m link = link := by
      intro link member
      have other := List.find?_eq_none.mp found link member
      exact if_neg (by simpa using other)
    have same : w.ledger.publication.readingOrder.map (markedBy w.settings m) =
        w.ledger.publication.readingOrder := by
      rw [List.map_congr_left others]
      exact List.map_id' _
    rw [same]
    rfl

/-! ## Runs -/

/-- What a run turns a writer into, given the entries that were finished in it. -/
structure Means (w w' : Writer Ledger) (archive : Archive) (steps : List Step)
    (entries : List (EntryPlan × List Step)) : Prop where
  slots : w'.output.settle.slots = (archive ++ entries.map fun e => entryOf e.1).map .member
  ledger : w'.ledger = w.ledger.withLinks
    (w.ledger.publication.readingOrder.map (markedBehind w.settings steps) ++
      entries.map fun e => outgoingLink w.settings
        (w.ledger.sourceLinks.find? (·.href = e.1.path)) e.1.path e.1.type
        (lastMark? e.1.path e.2))
  distinct : (entries.map fun e => e.1.path).Nodup
  fresh : ∀ e ∈ entries, e.1.path ∉ archive.map Member.name

/-- A writer on a device that refuses nothing, which holds an archive with every link in it. -/
structure Ready (w : Writer Ledger) (archive : Archive) : Prop where
  slots : w.output.settle.slots = archive.map .member
  refused : w.output.device.refused = none
  flushes : w.output.device.refusesFlush = false
  linked : ∀ href ∈ w.ledger.hrefs, href ∈ archive.map Member.name
  distinct : w.ledger.hrefs.Nodup

/-- A planned entry is refused if its name is taken, or it is written and linked. -/
theorem ready_file {w : Writer Ledger} {archive : Archive} (ready : Ready w archive)
    (plan : EntryPlan) (kept : ¬ Lost ((Step.file plan).run.perform w).2) :
    (∃ e, (Step.file plan).run.perform w = (.error e, { w with output := w.output.settle }) ∧
      Ready { w with output := w.output.settle } archive) ∨
    ∃ w', (Step.file plan).run.perform w = (.ok (), w') ∧ plan.path ∉ archive.map Member.name ∧
      w'.settings = w.settings ∧
      w'.ledger = w.ledger.withLinks (w.ledger.publication.readingOrder ++ [outgoingLink w.settings
        (w.ledger.sourceLinks.find? (·.href = plan.path)) plan.path plan.type none]) ∧
      Ready w' (archive ++ [entryOf plan]) := by
  have names := Zip.Output.names_of_slots ready.slots
  have entered := Writer.entered_file w plan
  generalize performed : (Step.file plan).run.perform w = result at kept entered ⊢
  obtain ⟨outcome, w'⟩ := result
  cases entered with
  | lost doomed => exact absurd (.inl doomed) kept
  | unsigned _ _ signature =>
    rw [Output.refuses_of_refused_none ready.refused] at signature
    cases signature
  | stray refused =>
    rw [ready.flushes] at refused
    cases refused
  | @repeated e taken =>
    refine .inl ⟨e, rfl, ?_, ?_, ?_, ready.linked, ready.distinct⟩
    · simpa using ready.slots
    · simpa using ready.refused
    · simpa using ready.flushes
  | @committed draft _ fresh path type =>
    rw [names] at fresh
    have link := linkFor_eq w.settings w.ledger draft
    rw [path, type] at link
    have ledger : Bindery.Ledger.commit draft w.ledger = w.ledger.withLinks
        (w.ledger.publication.readingOrder ++ [w.ledger.linkFor draft]) := rfl
    have hrefs : (Bindery.Ledger.commit draft w.ledger).hrefs = w.ledger.hrefs ++ [plan.path] := by
      rw [← path]
      exact hrefs_commit w.ledger draft
    rw [link] at ledger
    refine .inr ⟨_, rfl, fresh, rfl, ledger, ?_, ?_, ?_, ?_, ?_⟩
    · simp [ready.slots, entryOf]
    · simpa [Output.opened] using ready.refused
    · simpa [Output.opened] using ready.flushes
    · intro href member
      rw [hrefs] at member
      rw [List.map_append]
      rcases List.mem_append.mp member with earlier | here
      · exact List.mem_append_left _ (ready.linked href earlier)
      · obtain rfl := List.mem_singleton.mp here
        exact List.mem_append_right _ (by simp [entryOf])
    · rw [hrefs]
      have apart : plan.path ∉ w.ledger.hrefs := fun member => fresh (ready.linked _ member)
      exact List.nodup_append.mpr ⟨ready.distinct, by simp, by
        intro a earlier b here same
        obtain rfl := List.mem_singleton.mp here
        exact apart (same ▸ earlier)⟩

theorem ready_mark {w : Writer Ledger} {archive : Archive} (ready : Ready w archive) (m : Mark) :
    Ready ((Writer.mark m).perform w).2 archive := by
  have marked := mark_links w m ready.distinct
  have hrefs : ((Writer.mark m).perform w).2.ledger.hrefs = w.ledger.hrefs := by
    obtain ⟨ledger, same, kept | recorded⟩ := Writer.mark_keeps w m
    · rw [same, kept]
    · rw [same]
      exact hrefs_mark recorded
  refine ⟨?_, ?_, ?_, ?_, ?_⟩
  · rw [marked]; exact ready.slots
  · rw [marked]; exact ready.refused
  · rw [marked]; exact ready.flushes
  · rw [hrefs]; exact ready.linked
  · rw [hrefs]; exact ready.distinct

section
variable {w v w' : Writer Ledger} {archive : Archive} {steps : List Step}
  {entries : List (EntryPlan × List Step)}

theorem Means.behind_mark {m : Mark} (means : Means v w' archive steps entries)
    (settings : v.settings = w.settings)
    (marked : v.ledger = w.ledger.withLinks
      (w.ledger.publication.readingOrder.map (markedBy w.settings m))) :
    Means w w' archive (.mark m :: steps) entries where
  slots := means.slots
  distinct := means.distinct
  fresh := means.fresh
  ledger := by
    have twice : markedBehind w.settings (.mark m :: steps) =
        markedBehind w.settings steps ∘ markedBy w.settings m :=
      funext (markedBehind_mark w.settings m steps)
    rw [means.ledger, marked, settings, twice, ← List.map_map]
    rfl

theorem Means.behind_refused {plan : EntryPlan} (means : Means v w' archive steps entries)
    (settings : v.settings = w.settings) (same : v.ledger = w.ledger) :
    Means w w' archive (.file plan :: steps) entries where
  slots := means.slots
  distinct := means.distinct
  fresh := means.fresh
  ledger := by
    rw [means.ledger, same, settings]
    rfl

theorem Means.behind_finished {plan : EntryPlan}
    (means : Means v w' (archive ++ [entryOf plan]) steps entries)
    (fresh : plan.path ∉ archive.map Member.name) (settings : v.settings = w.settings)
    (linked : v.ledger = w.ledger.withLinks (w.ledger.publication.readingOrder ++
      [outgoingLink w.settings (w.ledger.sourceLinks.find? (·.href = plan.path)) plan.path
        plan.type none])) :
    Means w w' archive (.file plan :: steps) ((plan, steps) :: entries) where
  slots := by simpa using means.slots
  distinct := by
    refine List.nodup_cons.mpr ⟨fun member => ?_, means.distinct⟩
    obtain ⟨e, listed, same⟩ := List.mem_map.mp member
    have apart := means.fresh e listed
    rw [List.map_append, same] at apart
    exact apart (List.mem_append_right _ (by simp [entryOf]))
  fresh := by
    intro e member
    rcases List.mem_cons.mp member with rfl | listed
    · exact fresh
    · intro here
      refine means.fresh e listed ?_
      rw [List.map_append]
      exact List.mem_append_left _ here
  ledger := by
    have link := markedBehind_outgoingLink w.settings
      (w.ledger.sourceLinks.find? (·.href = plan.path)) plan.path plan.type steps
    rw [means.ledger, linked, settings, List.map_cons, ← link]
    simp only [Ledger.withLinks, List.map_append, List.map_cons, List.map_nil, List.append_assoc,
      List.singleton_append]
    rfl

end

/-- A run from a ready writer on means what its steps mean one after the other, if it does not lose
the writer. The induction is on the steps with any writer in front of them: a mark changes links
that are there, and a finished entry is one more link that later marks may change. -/
theorem means_runAll (steps : List Step) {w : Writer Ledger} {archive : Archive}
    (ready : Ready w archive) (direct : ∀ step ∈ steps, step.IsDirect)
    (kept : ¬ Lost (Step.runAll steps w).2) :
    Means w (Step.runAll steps w).2 archive steps
      (finished (steps.zip (Step.runAll steps w).1)) := by
  induction steps generalizing w archive with
  | nil =>
    have same : w.ledger.publication.readingOrder.map (markedBehind w.settings []) =
        w.ledger.publication.readingOrder :=
      List.map_id _
    refine ⟨?_, ?_, by simp [finished], by simp [finished]⟩
    · simpa [finished, Step.runAll] using ready.slots
    · rw [same]
      simp [finished, Step.runAll, Ledger.withLinks]
  | cons step steps ih =>
    have later := fun s hs => direct s (List.mem_cons_of_mem step hs)
    have alive : ¬ Lost (step.run.perform w).2 := fun lost => kept (lost_runAll steps lost)
    cases step with
    | copy r => exact absurd (direct _ List.mem_cons_self) id
    | encrypt cipher r => exact absurd (direct _ List.mem_cons_self) id
    | mark m =>
      have means := ih (ready_mark ready m) later kept
      have marked := mark_links w m ready.distinct
      exact means.behind_mark (by rw [marked]) (by rw [marked])
    | file plan =>
      rcases ready_file ready plan alive with ⟨e, performed, ready'⟩ |
        ⟨w', performed, fresh, settings, linked, ready'⟩
      · rw [runAll_cons, performed] at kept ⊢
        have means := ih ready' later kept
        have skipped : finished ((.file plan :: steps).zip
              (Step.runAll (.file plan :: steps) w).1) =
            finished (steps.zip (Step.runAll steps { w with output := w.output.settle }).1) := by
          simp only [Step.runAll, performed, List.zip_cons_cons, finished]
        rw [skipped]
        exact means.behind_refused rfl rfl
      · rw [runAll_cons, performed] at kept ⊢
        have means := ih ready' later kept
        have added : finished ((.file plan :: steps).zip (Step.runAll (.file plan :: steps) w).1) =
            (plan, steps) :: finished (steps.zip (Step.runAll steps w').1) := by
          simp only [Step.runAll, performed, List.zip_cons_cons, finished, map_fst_zip_outcomes]
        rw [added]
        exact means.behind_finished fresh settings linked

theorem writerBehind_ready (present : Archive) (p : Publication) (settings : Settings) :
    Ready (writerBehind present {} p settings) present where
  slots := rfl
  refused := rfl
  flushes := rfl
  linked := by simp [writerBehind, Ledger.hrefs, Ledger.ofPublication]
  distinct := List.nodup_nil

/-- A run on a device that refuses nothing, from an archive and a publication on, that ends in a
successful close. The archive is what was there, the finished entries and the manifest. The
manifest is the publication with the finished entries linked, each under the type it was given,
with the members of the first link to it at the source, and protected by the last mark that came
behind it. -/
theorem closed_run_means (present : Archive) (p : Publication) (settings : Settings)
    (steps : List Step) (outcomes : List (Result Unit)) (w : Writer Ledger)
    (direct : ∀ step ∈ steps, step.IsDirect)
    (ran : Step.runAll steps (writerBehind present {} p settings) = (outcomes, w))
    (closed : w.close.outcome = .ok ()) :
    w.close.archive = some (present ++
        (finished (steps.zip outcomes)).map (fun e => entryOf e.1) ++
        [.ofContent manifestLocation .deflated
          (utf8Bytes (w.ledger.publication.render ++ "\n"))]) ∧
      w.ledger.publication = { p with
        readingOrder := (finished (steps.zip outcomes)).map fun e =>
          outgoingLink settings (p.link? e.1.path) e.1.path e.1.type (lastMark? e.1.path e.2) } ∧
      ((finished (steps.zip outcomes)).map fun e => e.1.path).Nodup ∧
      ∀ e ∈ finished (steps.zip outcomes), e.1.path ∉ present.map Member.name ∧
        (entryOf e.1).packing = .known e.1.method ∧
        (entryOf e.1).content = .ok e.1.chunks.flatten := by
  have outcome : outcomes = (Step.runAll steps (writerBehind present {} p settings)).1 := by
    rw [ran]
  have behind : w = (Step.runAll steps (writerBehind present {} p settings)).2 := by rw [ran]
  subst outcome behind
  have kept : ¬ Lost (Step.runAll steps (writerBehind present {} p settings)).2 :=
    fun lost => not_closed_of_lost lost closed
  have means := means_runAll steps (writerBehind_ready present p settings) direct kept
  refine ⟨(Writer.archive_of_close means.slots closed).1, ?_, means.distinct, ?_⟩
  · rw [means.ledger]
    rfl
  · intro e listed
    exact ⟨means.fresh e listed, rfl, Member.content_ofContent _ _ _⟩

def chapter (path : String) : EntryPlan :=
  { path, type := "text/html", method := .deflated, chunks := [[0x6f], [0x6b]] }

def markFor (path profile : String) : Mark := { path, size := 2, profile, algorithm := "AES-CBC" }

def fixedPage : Publication where
  readingOrder := [{
    href := "a.html"
    type := "application/xml"
    properties := some {
      protection := some { scheme := "other", profile := "old", algorithm := "none" }
      extra := [("layout", .string "fixed")] }
    extra := [("title", .string "A")] }]

/-- A chapter is marked before it is there, then twice; and it is written twice. -/
def remarked : List Step :=
  [.mark (markFor "a.html" "early"), .file (chapter "b.html"), .file (chapter "a.html"),
    .mark (markFor "a.html" "basic"), .file (chapter "a.html"), .mark (markFor "a.html" "late")]

def remarkedRun : List (Result Unit) × Writer Ledger :=
  Step.runAll remarked (writerBehind [.ofContent "c.css" .stored []] {} fixedPage {})

theorem closed_run_means_remarked :
    remarkedRun.2.close.outcome = .ok () ∧
      remarkedRun.2.ledger.publication.readingOrder = [
        { href := "b.html", type := "text/html" },
        { href := "a.html"
          type := "text/html"
          properties := some {
            protection := some {
              scheme := "http://readium.org/2014/01/lcp"
              profile := "late"
              algorithm := "AES-CBC" }
            extra := [("layout", .string "fixed")] }
          extra := [("title", .string "A")] }] := by
  have direct : ∀ step ∈ remarked, step.IsDirect := by simp [remarked, Step.IsDirect]
  have closed : remarkedRun.2.close.outcome = .ok () := rfl
  have manifest := (closed_run_means [.ofContent "c.css" .stored []] fixedPage {} remarked
    remarkedRun.1 remarkedRun.2 direct rfl closed).2.1
  have entries : finished (remarked.zip remarkedRun.1) =
      [(chapter "b.html", remarked.drop 2), (chapter "a.html", remarked.drop 3)] := rfl
  rw [entries] at manifest
  exact ⟨closed, congrArg Publication.readingOrder manifest⟩

end ReadingOrder
end Bindery
