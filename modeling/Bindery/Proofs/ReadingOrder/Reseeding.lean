import Bindery.Proofs.ReadingOrder.Identity
import Bindery.Proofs.ReadingOrder.Retrieval
import Bindery.Proofs.ReadingOrder.Seeding

/-! Destinations that are opened as packages. What a destination was seeded with is at its front, and
what it lists is what its source lists; so it seeds the next destination with the same, unless a
standalone manifest was written to it. A pass over the resources of the source writes none: a
manifest that the source has is there already, and one that it has not cannot be read. -/
namespace Bindery.ReadingOrder

open Zip (Archive Member Output)

namespace Package

variable {p again : Package} {present rest : Archive}

/-! ## Standalone manifests -/

/-- A standalone manifest is there if a member has its name, for no directory has. -/
theorem isSome_standalone_iff {archive : Archive} {name : String} (alone : name ∈ standalone) :
    (archive.entry? name).isSome = true ↔ name ∈ archive.map Member.name := by
  rw [Archive.isSome_entry?_iff]
  constructor
  · exact fun listed => (List.filter_sublist.map _).subset listed
  · intro listed
    obtain ⟨m, held, rfl⟩ := List.mem_map.mp listed
    have file : Archive.isFile m = true := by
      rcases List.mem_cons.mp alone with encryption | sister
      · exact Archive.isFile_of_name _ encryption (by decide)
      · exact Archive.isFile_of_name _ (List.mem_singleton.mp sister) (by decide)
    exact List.mem_map_of_mem (List.mem_filter.mpr ⟨held, file⟩)

theorem mem_manifests_iff {name : String} :
    name ∈ p.manifests ↔ name ∈ standalone ∧ name ∈ p.archive.map Member.name := by
  rw [manifests, List.mem_filter]
  exact and_congr_right isSome_standalone_iff

/-- A standalone manifest that is listed beside the reading order is no other than the one that is
carried anyway. -/
theorem Seeds.mem_names_iff (seeds : p.Seeds present) {name : String} (alone : name ∈ standalone) :
    name ∈ present.map Member.name ↔ name ∈ p.archive.map Member.name := by
  constructor
  · intro listed
    obtain ⟨m, held, rfl⟩ := List.mem_map.mp listed
    obtain ⟨_, _, found, _⟩ := seeds.untouched m held
    exact (isSome_standalone_iff alone).mp (by rw [found]; rfl)
  · intro listed
    have carried := mem_manifests_iff.mpr ⟨alone, listed⟩
    exact (seeds.names.mem_iff name).mpr (List.mem_append_left _ carried)

/-! ## Files that are taken over again -/

theorem Seeds.isFile (seeds : p.Seeds present) {m : Member} (listed : m ∈ present) :
    Archive.isFile m = true := by
  obtain ⟨entry, source, found, held, same, _⟩ := seeds.untouched m listed
  obtain ⟨_, here, file, _⟩ := Archive.member_of_entry? found
  cases held.symm.trans here
  rw [same]
  exact file

theorem takenOver_behind {before after : Archive} {m : Member}
    (archive : p.archive = before ++ m :: after) (file : Archive.isFile m = true)
    (plain : m.encrypted = false) (fresh : m.name ∉ before.map Member.name) :
    p.takenOver m.name = .ok m := by
  have found : p.archive.entry? m.name = some (.of m before.length) :=
    archive ▸ Archive.entry?_behind file fresh
  have held : p.archive.memberOf (.of m before.length) = .ok m :=
    archive ▸ Archive.memberOf_behind before after m
  have same : { m with encrypted := false } = m := by rw [← plain]
  unfold takenOver
  rw [bind_of_eq_ok (Archive.entry_eq_ok_iff.mpr found), bind_of_eq_ok held, same]
  rfl

theorem Seeds.takenOver_again (seeds : p.Seeds present) (archive : again.archive = present ++ rest) :
    (present.map Member.name).mapM again.takenOver = .ok present := by
  refine mapM_of_forall_ok fun m listed => ?_
  have file := seeds.isFile listed
  obtain ⟨_, _, _, _, same, _⟩ := seeds.untouched m listed
  obtain ⟨before, after, split⟩ := List.append_of_mem listed
  have place : again.archive = before ++ m :: (after ++ rest) := by
    rw [archive, split, List.append_assoc, List.cons_append]
  have distinct := seeds.names.distinct
  rw [split, List.map_append] at distinct
  refine takenOver_behind place file (by rw [same]) fun earlier => ?_
  exact (List.nodup_append.mp distinct).2.2 _ earlier _ List.mem_cons_self rfl

/-- The same names are carried again if and only if none of the standalone manifests has come
behind what was carried first. -/
theorem carried_again_iff (seeds : p.Seeds present) (names : present.map Member.name = p.carried)
    (archive : again.archive = present ++ rest)
    (listed : again.publication.resources.map Link.href = p.publication.resources.map Link.href)
    (fresh : ∀ m ∈ rest, m.name ∉ present.map Member.name) :
    again.carried = p.carried ↔ ∀ m ∈ rest, m.name ∉ standalone := by
  have there (name : String) : name ∈ again.archive.map Member.name ↔
      name ∈ present.map Member.name ∨ name ∈ rest.map Member.name := by
    rw [archive, List.map_append, List.mem_append]
  constructor
  · intro same m held alone
    have manifest : m.name ∈ again.manifests :=
      mem_manifests_iff.mpr ⟨alone, (there _).mpr (.inr (List.mem_map_of_mem held))⟩
    have carried : m.name ∈ again.carried :=
      List.mem_eraseDups.mpr (List.mem_append_left _ manifest)
    rw [same, ← names] at carried
    exact fresh m held carried
  · intro apart
    have manifests : again.manifests = p.manifests := by
      refine List.filter_congr fun name alone => Bool.eq_iff_iff.mpr ?_
      rw [isSome_standalone_iff alone, isSome_standalone_iff alone, there,
        seeds.mem_names_iff alone]
      refine or_iff_left fun behind => ?_
      obtain ⟨m, held, rfl⟩ := List.mem_map.mp behind
      exact apart m held alone
    change (again.manifests ++ again.publication.resources.map Link.href).eraseDups =
      (p.manifests ++ p.publication.resources.map Link.href).eraseDups
    rw [manifests, listed]

/-- What begins as a seeded destination and lists the same files seeds the next destination. -/
theorem newWriter_again (taken : p.carried.mapM p.takenOver = .ok present)
    (archive : again.archive = present ++ rest)
    (listed : again.publication.resources.map Link.href = p.publication.resources.map Link.href)
    (fresh : ∀ m ∈ rest, m.name ∉ present.map Member.name) {target : Device}
    (takes : target.refused = none) :
    ∃ reseeded, again.newWriter target =
        .ok (writerBehind reseeded target again.publication again.settings) ∧
      again.Seeds reseeded ∧ (reseeded = present ↔ ∀ m ∈ rest, m.name ∉ standalone) := by
  have seeds := seeds_of_takenOver taken
  have names := names_of_takenOver taken
  have beside : ∀ link ∈ again.publication.resources,
      (again.archive.entry? link.href).isSome = true := by
    intro link ancillary
    have href : link.href ∈ p.publication.resources.map Link.href :=
      listed ▸ List.mem_map_of_mem ancillary
    obtain ⟨m, held, same⟩ := List.mem_map.mp
      ((seeds.names.mem_iff link.href).mpr (List.mem_append_right _ href))
    rw [Archive.isSome_entry?_iff, archive, ← same]
    exact List.mem_map_of_mem (List.mem_filter.mpr
      ⟨List.mem_append_left _ held, seeds.isFile held⟩)
  obtain ⟨w, started⟩ := newWriter_of_present beside takes
  obtain ⟨reseeded, retaken, rfl⟩ := newWriter_behind started
  refine ⟨reseeded, started, seeds_of_takenOver retaken, ?_⟩
  rw [← carried_again_iff seeds names archive listed fresh]
  constructor
  · rintro rfl
    exact (names_of_takenOver retaken).symm.trans names
  · intro same
    have anew := seeds.takenOver_again archive
    rw [names, ← same] at anew
    cases retaken.symm.trans anew
    rfl

/-! ## Passes -/

/-- The steps of a pass over a package. Each resource is copied, or written in an encrypted form and
marked. The caller may write that form on its own; to finish the entry it must have read the
resource. -/
def IsPassStep (p : Package) : Step → Prop
  | .file plan => ∃ r ∈ p.resources, r.path = plan.path ∧
      (plan.finishes = true → ∃ source, r.source = .ok source)
  | .mark _ => True
  | .copy r => r ∈ p.resources
  | .encrypt _ r => r ∈ p.resources

variable {w : Writer Ledger} {archive : Archive}

/-- A standalone manifest is in the archive already, or no resource can be read under its name. -/
theorem unopened_of_standalone (carried : ∀ name ∈ p.manifests, name ∈ archive.map Member.name)
    {r : Resource} (listed : r ∈ p.resources) (alone : r.path ∈ standalone)
    (fresh : r.path ∉ archive.map Member.name) : ∃ e, r.source = .error e := by
  obtain ⟨link, _, rfl⟩ := List.mem_map.mp listed
  refine ⟨_, source_of_missing (Option.not_isSome_iff_eq_none.mp fun there => fresh ?_)⟩
  exact carried _ (List.mem_filter.mpr ⟨alone, there⟩)

theorem plan_of_added {step : Step} {m : Member}
    (added : m ∈ step.plan?.elim [] (newEntry archive)) :
    ∃ plan ∈ step.plan?, m.name = plan.path ∧ plan.path ∉ archive.map Member.name := by
  cases plans : step.plan? with
  | none =>
    rw [plans] at added
    cases added
  | some plan =>
    rw [plans, Option.elim_some, newEntry] at added
    split at added
    · cases added
    · rename_i fresh
      obtain rfl := List.mem_singleton.mp added
      exact ⟨plan, rfl, rfl, fresh⟩

theorem step_spares_standalone (willing : w.Willing)
    (slots : w.output.settle.slots = archive.map .member)
    (carried : ∀ name ∈ p.manifests, name ∈ archive.map Member.name) {step : Step}
    (pass : p.IsPassStep step) :
    (step.run.perform w).2.Doomed ∨
      ∀ m ∈ step.plan?.elim [] (newEntry archive), m.name ∉ standalone := by
  have names := Output.names_of_slots slots
  by_cases opens : ∃ plan ∈ step.plan?, plan.path ∈ standalone ∧ plan.path ∉ archive.map Member.name
  · -- Such an entry would be filled from a resource that cannot be opened. An encryption stops before
    -- the entry is begun; a copy and a plan give the entry up.
    obtain ⟨plan, plans, alone, fresh⟩ := opens
    have new : plan.path ∉ w.output.names := names ▸ fresh
    cases step with
    | mark m => cases plans
    | copy r =>
      cases plans
      obtain ⟨e, closed⟩ := unopened_of_standalone carried pass alone fresh
      exact .inl (Writer.doomed_of_unopened willing closed new)
    | encrypt cipher r =>
      obtain ⟨plain, reads, rfl⟩ := Option.map_eq_some_iff.mp plans
      obtain ⟨e, closed⟩ := unopened_of_standalone carried pass alone fresh
      have unread : r.content = .error e := bind_of_eq_error closed _
      rw [unread] at reads
      cases reads
    | file plan' =>
      cases plans
      obtain ⟨r, listed, path, whole⟩ := pass
      obtain ⟨e, closed⟩ := unopened_of_standalone carried listed (path ▸ alone) (path ▸ fresh)
      refine .inl (Writer.doomed_of_unfinished willing plan new (Bool.eq_false_iff.mpr ?_))
      intro finishes
      obtain ⟨source, opened⟩ := whole finishes
      cases closed.symm.trans opened
  · refine .inr fun m added alone => opens ?_
    obtain ⟨plan, plans, path, fresh⟩ := plan_of_added added
    exact ⟨plan, plans, path ▸ alone, fresh⟩

theorem run_spares_standalone (steps : List Step) (willing : w.Willing)
    (slots : w.output.settle.slots = archive.map .member)
    (carried : ∀ name ∈ p.manifests, name ∈ archive.map Member.name)
    (pass : ∀ step ∈ steps, p.IsPassStep step) :
    Lost (Step.runAll steps w).2 ∨ ∀ m ∈ newEntries archive steps, m.name ∉ standalone := by
  induction steps generalizing w archive with
  | nil => exact .inr nofun
  | cons step steps ih =>
    obtain ⟨here, others⟩ := List.forall_mem_cons.mp pass
    rw [runAll_cons]
    by_cases lost : Lost (step.run.perform w).2
    · exact .inl (lost_runAll steps lost)
    have kept : ¬ (step.run.perform w).2.Doomed := fun doomed => lost (.inl doomed)
    have spared := (step_spares_standalone willing slots carried here).resolve_left kept
    have progress := (progress_step slots step).resolve_left lost
    have longer : ∀ name ∈ p.manifests,
        name ∈ (archive ++ step.plan?.elim [] (newEntry archive)).map Member.name := by
      intro name listed
      rw [List.map_append]
      exact List.mem_append_left _ (carried name listed)
    refine (ih (willing.behind progress.grown kept) progress.slots longer others).imp_right ?_
    exact fun later => List.forall_mem_append.mpr ⟨spared, later⟩

end Package

/-! ## From one destination to the next -/

namespace Ledger

/-- What the ledgers of a destination have in common with the publication that it was started for. -/
structure Follows (p : Publication) (ledger : Ledger) : Prop where
  writable : ledger.Writable
  resources : ledger.publication.resources = p.resources
  rereads : p.Rereads → ledger.Rereads

theorem follows_ofPublication {p : Publication} (normal : p.Normal) (fits : p.Fits) :
    (ofPublication p).Follows p where
  writable := writable_ofPublication normal fits
  resources := rfl
  rereads := rereads_ofPublication

theorem lasts_follows (p : Publication) : Writer.Lasts (Follows p) where
  commit draft follows := {
    writable := follows.writable.commit draft
    resources := follows.resources
    rereads := fun read => (follows.rereads read).commit draft }
  mark follows recorded := {
    writable := follows.writable.mark recorded
    resources := by
      obtain ⟨_, _, same⟩ := Option.map_eq_some_iff.mp recorded
      cases same
      exact follows.resources
    rereads := fun read => (follows.rereads read).mark recorded }

end Ledger

namespace Package

variable {p : Package} {present : Archive}

section
variable {device : Device} {steps : List Step} {w : Writer Ledger}

theorem closed_run (normal : p.publication.Normal) (fits : p.publication.Fits)
    (flushes : device.refusesFlush = false)
    (ran : (Step.runAll steps (writerBehind present device p.publication p.settings)).2 = w)
    (closed : w.close.outcome = .ok ()) :
    w.close.archive = some (present ++ newEntries present steps ++ [w.ledger.document.member]) ∧
      manifestLocation ∉ (present ++ newEntries present steps).map Member.name ∧
      w.ledger.hrefs = (newEntries present steps).map Member.name ∧
      w.ledger.Follows p.publication := by
  subst ran
  have slots : (writerBehind present device p.publication p.settings).output.settle.slots =
      present.map .member := rfl
  have begun : (writerBehind present device p.publication p.settings).ledger.Follows
      p.publication := Ledger.follows_ofPublication normal fits
  rcases progress_newEntries steps slots with lost | progress
  · exact absurd closed (not_closed_of_lost lost)
  rcases Writer.lasts_runAll (Ledger.lasts_follows p.publication) steps begun with doomed | follows
  · exact absurd closed (Writer.not_closed_of_doomed doomed)
  obtain ⟨left, apart⟩ := Writer.archive_of_close progress.slots closed
  have hrefs : _ = [] ++ if device.refusesFlush then [] else _ := progress.hrefs
  rw [flushes] at hrefs
  exact ⟨left, (apart _ rfl).1, hrefs, follows⟩

theorem pass_spares_standalone (seeds : p.Seeds present) (takes : device.refused = none)
    (flushes : device.refusesFlush = false)
    (ran : (Step.runAll steps (writerBehind present device p.publication p.settings)).2 = w)
    (closed : w.close.outcome = .ok ()) (pass : ∀ step ∈ steps, p.IsPassStep step) :
    ∀ m ∈ newEntries present steps, m.name ∉ standalone := by
  have willing : (writerBehind present device p.publication p.settings).Willing :=
    ⟨rfl, takes, flushes⟩
  have carried : ∀ name ∈ p.manifests, name ∈ present.map Member.name := fun name manifest =>
    (seeds.names.mem_iff name).mpr (List.mem_append_left _ manifest)
  refine (run_spares_standalone steps willing rfl carried pass).resolve_left fun lost => ?_
  rw [ran] at lost
  exact not_closed_of_lost lost closed

theorem newWriter_reopened {again : Package} {later : Settings} {target : Device} {ledger : Ledger}
    (taken : p.carried.mapM p.takenOver = .ok present) (follows : ledger.Follows p.publication)
    (hrefs : ledger.hrefs = (newEntries present steps).map Member.name)
    (elsewhere : manifestLocation ∉ (present ++ newEntries present steps).map Member.name)
    (reopened : ofArchive (present ++ newEntries present steps ++ [ledger.document.member]) later =
      .ok again) (takes : target.refused = none) :
    ∃ reseeded, again.newWriter target =
        .ok (writerBehind reseeded target again.publication again.settings) ∧
      again.Seeds reseeded ∧
      (reseeded = present ↔ ∀ m ∈ newEntries present steps, m.name ∉ standalone) ∧
      again.publication.readingOrder.map Link.href =
        (newEntries present steps).map Member.name := by
  obtain ⟨place, links⟩ := paths_of_reopened elsewhere reopened
  obtain ⟨whole, _, _⟩ := (ofArchive_behind_iff follows.writable elsewhere).mp reopened
  have listed : again.publication.resources.map Link.href =
      p.publication.resources.map Link.href := by
    rw [Publication.hrefs_resources_of_reread whole, follows.resources]
  have fresh : ∀ m ∈ newEntries present steps ++ [ledger.document.member],
      m.name ∉ present.map Member.name := by
    rw [List.map_append, List.mem_append, not_or] at elsewhere
    exact List.forall_mem_append.mpr ⟨fun m added => ((newEntries_spec present steps).2 m added).1,
      List.forall_mem_singleton.mpr elsewhere.1⟩
  have others : (∀ m ∈ newEntries present steps ++ [ledger.document.member],
      m.name ∉ standalone) ↔ ∀ m ∈ newEntries present steps, m.name ∉ standalone := by
    have apart : manifestLocation ∉ standalone := by decide
    rw [List.forall_mem_append]
    exact and_iff_left (List.forall_mem_singleton.mpr apart)
  rw [List.append_assoc] at place
  obtain ⟨reseeded, started, seeds, same⟩ := newWriter_again taken place listed fresh takes
  exact ⟨reseeded, started, seeds, same.trans others, links.trans hrefs⟩

end

/-- A destination for a package is started if all is there that is listed beside the reading order;
otherwise the first file that is not there is named. The destination then holds the standalone
manifests of the package and what is listed, each of them once and as it was. Whatever is done with
it, if it is closed with success and opened as a package, it seeds the next destination, and it seeds
it with the same if and only if no standalone manifest was written, which no pass does. -/
theorem newWriter_seeds {archive : Archive} {settings : Settings} {device : Device}
    (opened : ofArchive archive settings = .ok p) (takes : device.refused = none)
    (flushes : device.refusesFlush = false) :
    (∀ link, p.publication.resources.find? (fun link => (p.archive.entry? link.href).isNone) =
        some link → p.newWriter device = .error (.missing (.entry link.href))) ∧
    ((∀ link ∈ p.publication.resources, (p.archive.entry? link.href).isSome = true) →
      ∃ present, p.newWriter device =
          .ok (writerBehind present device p.publication p.settings) ∧
        p.Seeds present ∧
        ∀ steps w, (Step.runAll steps (writerBehind present device p.publication p.settings)).2 = w →
          w.close.outcome = .ok () →
          ∃ left, w.close.archive = some left ∧
            (p.publication.Rereads → ∀ later, ∃ again, ofArchive left later = .ok again) ∧
            ∀ later again target, ofArchive left later = .ok again → target.refused = none →
              (∃ reseeded, again.newWriter target =
                  .ok (writerBehind reseeded target again.publication again.settings) ∧
                again.Seeds reseeded ∧
                (reseeded = present ↔
                  ∀ link ∈ again.publication.readingOrder, link.href ∉ standalone)) ∧
              ((∀ step ∈ steps, p.IsPassStep step) → again.newWriter target =
                .ok (writerBehind present target again.publication again.settings))) := by
  refine ⟨fun link found => newWriter_of_missing takes found, fun beside => ?_⟩
  obtain ⟨_, _, _, _, read, _, _⟩ := ofArchive_ok_iff.mp opened
  obtain ⟨normal, fits⟩ := Publication.of_readBytes read
  obtain ⟨_, started⟩ := newWriter_of_present beside takes
  obtain ⟨present, taken, rfl⟩ := newWriter_behind started
  have seeds := seeds_of_takenOver taken
  refine ⟨present, started, seeds, fun steps w ran closed => ?_⟩
  obtain ⟨left, elsewhere, hrefs, follows⟩ := closed_run normal fits flushes ran closed
  refine ⟨_, left, fun rereads later => ?_, fun later again target reopened free => ?_⟩
  · obtain ⟨q, whole⟩ := (follows.rereads rereads).publication
    exact ⟨{ archive := _, publication := q, settings := later },
      (ofArchive_behind_iff follows.writable elsewhere).mpr ⟨whole, rfl, rfl⟩⟩
  obtain ⟨reseeded, restarted, reseeds, same, links⟩ :=
    newWriter_reopened taken follows hrefs elsewhere reopened free
  refine ⟨⟨reseeded, restarted, reseeds, ?_⟩, fun pass => ?_⟩
  · have written : (∀ name ∈ again.publication.readingOrder.map Link.href, name ∉ standalone) ↔
        ∀ name ∈ (newEntries present steps).map Member.name, name ∉ standalone := by rw [links]
    rw [List.forall_mem_map, List.forall_mem_map] at written
    exact same.trans written.symm
  · obtain rfl := same.mpr (pass_spares_standalone seeds takes flushes ran closed pass)
    exact restarted

end Package

/-- A sheet that is not there. -/
def missingSheet : List Link := [{ href := "b.css", type := "text/css" }]

/-- A copy of the plain package seeds the next destination as the package did. Without the sheet that
is listed no destination is started. -/
theorem newWriter_seeds_pages :
    Package.ofArchive plainPackage.archive {} = .ok plainPackage ∧
      plainPackage.newWriter {} = .ok plainWriter ∧
      plainCarried.map Member.name = ["publication.json", "a.css"] ∧
      plainPackage.Seeds plainCarried ∧
      (∃ left again,
        (Writer.close (plainWriter.behindCopies plainPackage.resources)).archive = some left ∧
        Package.ofArchive left {} = .ok again ∧ again.newWriter {} =
          .ok (writerBehind plainCarried {} again.publication again.settings)) ∧
      Package.ofArchive (pagePackage missingSheet).archive {} = .ok (pagePackage missingSheet) ∧
      (pagePackage missingSheet).newWriter {} = .error (.missing (.entry "b.css")) := by
  have opened : Package.ofArchive (pagePackage missingSheet).archive {} =
      .ok (pagePackage missingSheet) := opened_page rfl (by decide) rfl
  have free : ({} : Device).refused = none ∧ ({} : Device).refusesFlush = false := ⟨rfl, rfl⟩
  have refused := (Package.newWriter_seeds opened free.1 free.2).1 _ rfl
  obtain ⟨_, starts⟩ := Package.newWriter_seeds opened_plain free.1 free.2
  obtain ⟨present, started, seeds, goes⟩ := starts (List.forall_mem_singleton.mpr rfl)
  obtain rfl : present = plainCarried := by
    have slots := congrArg (fun w => w.output.slots)
      (Except.ok.inj (started.symm.trans started_plain))
    exact (List.map_inj_right fun _ _ => Zip.Slot.member.inj).mp slots
  obtain ⟨left, whole, reopens, anew⟩ := goes _ _ rfl copiesAll_plain.closed
  obtain ⟨again, reopened⟩ := reopens ⟨_, rfl⟩ {}
  have pass : ∀ step ∈ plainPackage.resources.map Step.copy, plainPackage.IsPassStep step :=
    List.forall_mem_map.mpr fun _ listed => listed
  have restarted := (anew {} again {} reopened rfl).2 pass
  exact ⟨opened_plain, started_plain, rfl, seeds, ⟨left, again, whole, reopened, restarted⟩, opened,
    refused⟩

end Bindery.ReadingOrder
