import Bindery.Proofs.ReadingOrder.Copies

/-! Reading back what a run has written. The writer takes any path, and its archive holds each entry
under that path; the index that a reader makes of the archive passes over directories, which are
told by the end of their names alone. -/
namespace Bindery

def IsDirectoryPath (path : String) : Prop :=
  path.toList.getLast? = some '/' ∨ path.toList.getLast? = some '\\'

/-- A resource of the size of some content, which opens, yields that content when it is read to the
end, and is closed with success behind it. -/
structure Resource.Yields (r : Resource) (content : Bytes) : Prop where
  size : r.size = content.length
  read : ∃ source final, r.source = .ok source ∧ Source.readAll source = .ok content final ∧
    final.close = .ok ()

theorem Resource.yields_of_source {r : Resource} {content : Bytes} (size : r.size = content.length)
    (opens : r.source = .ok { rest := content, declared := content.length }) :
    r.Yields content := by
  refine ⟨size, _, _, opens, Writer.readAll_sound _ rfl, ?_⟩
  unfold Source.close Writer.exhausted
  rw [if_neg]
  simp

namespace Zip.Archive

theorem isFile_eq_false_iff (m : Member) : isFile m = false ↔ IsDirectoryPath m.name := by
  unfold isFile Member.isDirectory IsDirectoryPath
  cases m.name.toList.getLast? with
  | none => simp
  | some c =>
    simp only [Bool.not_eq_false', Bool.or_eq_true, beq_iff_eq, Option.some.injEq]

theorem entry?_directory (archive : Archive) {name : String} (directory : IsDirectoryPath name) :
    archive.entry? name = none := by
  refine Option.not_isSome_iff_eq_none.mp fun listed => ?_
  obtain ⟨m, kept, rfl⟩ := List.mem_map.mp ((isSome_entry?_iff archive name).mp listed)
  have file := (List.mem_filter.mp kept).2
  rw [(isFile_eq_false_iff m).mpr directory] at file
  cases file

end Zip.Archive

namespace ReadingOrder

open Zip (Archive Member)

/-! ## What the archive holds -/

/-- The entries that steps add have new names, each only once, and each of them is what the first
step with its name plans. -/
theorem newEntries_spec (archive : Archive) (steps : List Step) :
    ((newEntries archive steps).map Member.name).Nodup ∧
      ∀ m ∈ newEntries archive steps, m.name ∉ archive.map Member.name ∧
        ∃ plan, (steps.filterMap Step.plan?).find? (·.path = m.name) = some plan ∧
          m = .ofContent plan.path plan.method plan.chunks.flatten := by
  induction steps generalizing archive with
  | nil => exact ⟨List.nodup_nil, nofun⟩
  | cons step steps ih =>
    unfold newEntries
    cases plans : step.plan? with
    | none =>
      rw [List.filterMap_cons_none plans]
      simpa using ih archive
    | some plan =>
      rw [List.filterMap_cons_some plans]
      simp only [Option.elim_some, newEntry]
      have later {m : Member} (other : m.name ≠ plan.path) (rest : List EntryPlan) :
          (plan :: rest).find? (·.path = m.name) = rest.find? (·.path = m.name) :=
        List.find?_cons_of_neg (by simpa using other.symm)
      split
      · rename_i taken
        rw [List.append_nil, List.nil_append]
        obtain ⟨distinct, each⟩ := ih archive
        refine ⟨distinct, fun m listed => ?_⟩
        obtain ⟨fresh, found⟩ := each m listed
        rw [later fun same => fresh (same ▸ taken)]
        exact ⟨fresh, found⟩
      · rename_i fresh
        obtain ⟨distinct, each⟩ :=
          ih (archive ++ [.ofContent plan.path plan.method plan.chunks.flatten])
        simp only [List.map_append, List.mem_append, not_or, List.map_cons, List.map_nil,
          List.mem_singleton] at each
        rw [List.singleton_append, List.map_cons, List.nodup_cons, List.forall_mem_cons]
        refine ⟨⟨fun member => ?_, distinct⟩, ⟨fresh, plan, ?_, rfl⟩, fun m listed => ?_⟩
        · obtain ⟨m, listed, same⟩ := List.mem_map.mp member
          exact (each m listed).1.2 same
        · exact List.find?_cons_of_pos (by simp)
        · obtain ⟨⟨apart, other⟩, found⟩ := each m listed
          rw [later other]
          exact ⟨apart, found⟩

theorem place_of_newEntry {present : Archive} {steps : List Step} {m : Member}
    (added : m ∈ newEntries present steps) : ∃ plan earlier others,
    (steps.filterMap Step.plan?).find? (·.path = m.name) = some plan ∧
      newEntries present steps =
        earlier ++ .ofContent m.name plan.method plan.chunks.flatten :: others ∧
      m.name ∉ (present ++ earlier).map Member.name := by
  obtain ⟨distinct, each⟩ := newEntries_spec present steps
  obtain ⟨fresh, plan, found, rfl⟩ := each m added
  obtain ⟨earlier, others, whole⟩ := List.append_of_mem added
  refine ⟨plan, earlier, others, found, whole, ?_⟩
  rw [whole, List.map_append] at distinct
  have once : plan.path ∉ earlier.map Member.name := fun before =>
    (List.nodup_append.mp distinct).2.2 _ before _ List.mem_cons_self rfl
  rw [List.map_append, List.mem_append, not_or]
  exact ⟨fresh, once⟩

theorem Progress.newEntry_of_href {present : Archive} {device : Device} {p : Publication}
    {settings : Settings} {behind : Writer Ledger} {added : Archive} {href : String}
    (progress : Progress (writerBehind present device p settings) behind present added)
    (committed : href ∈ behind.ledger.hrefs) : ∃ m ∈ added, m.name = href := by
  rw [progress.hrefs] at committed
  rcases List.mem_append.mp committed with before | named
  · cases before
  · split at named
    · cases named
    · exact List.mem_map.mp named

/-! ## What the reader finds -/

namespace Package

theorem paths_of_reopened {before : Archive} {ledger : Ledger} {settings : Settings}
    {again : Package} (elsewhere : manifestLocation ∉ before.map Member.name)
    (reopened : ofArchive (before ++ [ledger.document.member]) settings = .ok again) :
    again.archive = before ++ [ledger.document.member] ∧
      again.publication.readingOrder.map Link.href = ledger.hrefs := by
  obtain ⟨entry, found, content⟩ := manifest_behind ledger elsewhere
  obtain ⟨_, _, here, written, read, same, _⟩ := ofArchive_ok_iff.mp reopened
  cases found.symm.trans here
  cases content.symm.trans written
  rw [Publication.readBytes_utf8Bytes] at read
  have blank : ∀ c ∈ "\n".toList, Json.isBlank c = true := List.all_eq_true.mp (by decide)
  exact ⟨same, Publication.hrefs_of_read_render blank read⟩

theorem source_of_missing {p : Package} {link : Link}
    (missing : p.archive.entry? link.href = none) :
    (p.resourceOf link).source = .error (.missing (.entry link.href)) :=
  bind_of_eq_error (Archive.entry_of_missing missing) _

/-- A link to a member yields its content, or leads to a directory that cannot be opened. -/
theorem retrieved_behind {p : Package} {before after : Archive} {link : Link}
    {method : Zip.Method} {content : Bytes}
    (archive : p.archive = before ++ .ofContent link.href method content :: after)
    (fresh : link.href ∉ before.map Member.name) :
    (¬ IsDirectoryPath link.href → (p.resourceOf link).Yields content) ∧
      (IsDirectoryPath link.href →
        (p.resourceOf link).source = .error (.missing (.entry link.href)) ∧
          (p.resourceOf link).size = 0) := by
  constructor
  · intro isFile
    have file : Archive.isFile (.ofContent link.href method content) = true :=
      Bool.of_not_eq_false (mt (Archive.isFile_eq_false_iff _).mp isFile)
    have found : p.archive.entry? link.href = some _ :=
      archive ▸ Archive.entry?_behind file fresh
    have ran : p.archive.contentOf _ = .ok content :=
      archive ▸ (Archive.contentOf_behind before after _).trans (Member.content_ofContent _ _ _)
    apply Resource.yields_of_source
    · simp only [resourceOf, found]
      rfl
    · simp only [resourceOf, Archive.entry, found, bind, Except.bind, ran]
      rfl
  · intro directory
    have missing := Archive.entry?_directory p.archive directory
    refine ⟨source_of_missing missing, ?_⟩
    simp only [resourceOf, missing]
    rfl

end Package

/-- A run on any device, from an archive and a publication on, that ends in a successful close. If
what is left is opened again, its resources are the committed entries. Each of them yields what
the first step for its path has written, unless the path is that of a directory: then it is not
found. -/
theorem reopened_yields (present : Archive) (device : Device) (p : Publication)
    (settings : Settings) (steps : List Step) (w : Writer Ledger)
    (ran : (Step.runAll steps (writerBehind present device p settings)).2 = w)
    (closed : w.close.outcome = .ok ()) :
    ∃ archive, w.close.archive = some archive ∧
      ∀ later again, Package.ofArchive archive later = .ok again →
        again.resources.map Resource.path = w.ledger.hrefs ∧
        ∀ r ∈ again.resources, ∃ plan,
          (steps.filterMap Step.plan?).find? (·.path = r.path) = some plan ∧
          (¬ IsDirectoryPath r.path → r.Yields plan.chunks.flatten) ∧
          (IsDirectoryPath r.path → r.source = .error (.missing (.entry r.path)) ∧ r.size = 0) := by
  subst ran
  have slots : (writerBehind present device p settings).output.settle.slots =
      present.map .member := rfl
  rcases progress_newEntries steps slots with lost | progress
  · exact absurd closed (not_closed_of_lost lost)
  obtain ⟨left, apart⟩ := Writer.archive_of_close progress.slots closed
  refine ⟨_, left, fun later again reopened => ?_⟩
  obtain ⟨archive, hrefs⟩ := Package.paths_of_reopened (apart _ rfl).1 reopened
  have paths : again.resources.map Resource.path =
      again.publication.readingOrder.map Link.href := by
    rw [Package.resources, List.map_map]
    rfl
  refine ⟨paths.trans hrefs, List.forall_mem_map.mpr fun link listed => ?_⟩
  have linked : link.href ∈ Ledger.hrefs _ := hrefs ▸ List.mem_map_of_mem listed
  obtain ⟨m, added, same⟩ := progress.newEntry_of_href linked
  obtain ⟨plan, earlier, others, found, whole, before⟩ := place_of_newEntry added
  rw [same] at found whole before
  obtain ⟨after, place⟩ : ∃ after, again.archive = (present ++ earlier) ++
      .ofContent link.href plan.method plan.chunks.flatten :: after := by
    simp only [archive, whole, List.append_assoc, List.cons_append]
    exact ⟨_, rfl⟩
  exact ⟨plan, found, Package.retrieved_behind place before⟩

/-! ## A path that ends in a slash -/

def inPieces (path : String) : EntryPlan :=
  { path, type := "text/html", method := .stored, chunks := [[0x6f], [0x6b]] }

def slashedPublication : Publication where
  readingOrder := [{ href := "a/", type := "text/html" }, { href := "b.html", type := "text/html" }]

def slashedLedger : Ledger := { publication := slashedPublication, sourceLinks := [] }

def slashedPages : Archive :=
  [.ofContent "a/" .stored [0x6f, 0x6b], .ofContent "b.html" .stored [0x6f, 0x6b]]

def slashedPackage : Package where
  archive := slashedPages ++ [slashedLedger.document.member]
  publication := slashedPublication
  settings := {}

def slashedWriter : Writer Ledger :=
  (Step.runAll [.file (inPieces "a/"), .file (inPieces "b.html")] (writerBehind [] {} {} {})).2

theorem closed_slashed : slashedWriter.close.outcome = .ok () ∧
    slashedWriter.close.archive = some slashedPackage.archive := by
  have closed : slashedWriter.close.outcome = .ok () := rfl
  have slots : slashedWriter.output.settle.slots = slashedPages.map .member := rfl
  have ledger : slashedWriter.ledger = slashedLedger := rfl
  have left := (Writer.archive_of_close slots closed).1
  rw [ledger] at left
  exact ⟨closed, left⟩

theorem reopened_slashed : Package.ofArchive slashedPackage.archive {} = .ok slashedPackage := by
  have read : Publication.ofValue slashedPublication.toValue = .ok slashedPublication := rfl
  have writable : slashedLedger.Writable := {
    normal := Publication.normal_of_ofValue read
    fits := Publication.within_of_ofValue read (by decide) (by decide)
    normalSources := nofun
    fitSources := nofun }
  have elsewhere : manifestLocation ∉ slashedPages.map Member.name := by decide
  exact (Package.ofArchive_behind_iff writable elsewhere).mpr ⟨rfl, rfl, rfl⟩

theorem reopened_yields_slashed :
    slashedWriter.close.outcome = .ok () ∧
      slashedPackage.resources.map Resource.path = ["a/", "b.html"] ∧
      ∀ r ∈ slashedPackage.resources, r.path = "b.html" → r.Yields [0x6f, 0x6b] := by
  obtain ⟨closed, whole⟩ := closed_slashed
  obtain ⟨archive, left, reopens⟩ := reopened_yields [] {} {} {} _ slashedWriter rfl closed
  obtain rfl := Option.some.inj (left.symm.trans whole)
  obtain ⟨paths, each⟩ := reopens {} slashedPackage reopened_slashed
  refine ⟨closed, paths, fun r listed path => ?_⟩
  obtain ⟨plan, found, yields, _⟩ := each r listed
  rw [path] at found yields
  cases found
  refine yields ?_
  unfold IsDirectoryPath
  decide

/-- The page whose path ends in a slash is committed, and not found again. -/
theorem slashed_missing :
    slashedWriter.close.outcome = .ok () ∧
      slashedWriter.close.archive = some slashedPackage.archive ∧
      Package.ofArchive slashedPackage.archive {} = .ok slashedPackage ∧
      slashedPackage.resources.map Resource.path = ["a/", "b.html"] ∧
      ∃ r ∈ slashedPackage.resources, r.path = "a/" ∧
        r.source = .error (.missing (.entry "a/")) :=
  ⟨closed_slashed.1, closed_slashed.2, reopened_slashed, rfl, _, List.mem_cons_self, rfl, rfl⟩

end ReadingOrder
end Bindery
