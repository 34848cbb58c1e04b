import Bindery.Proofs.ReadingOrder.Copies

/-! Packages that are packed again. Where everything that the publication of a package lists is
there, a destination that refuses nothing takes over what it should; but no name is taken twice, be
it a listed one or the place of the new publication. -/
namespace Bindery.ReadingOrder

open Zip (Archive Member Output)

namespace Package

variable {p : Package}

/-- A package in which every link, in the reading order or beside it, leads to a file that can be
read at its declared size. -/
def IsComplete (p : Package) : Prop :=
  ∀ link ∈ p.publication.readingOrder ++ p.publication.resources, p.Holds link.href

/-- What is carried over is there if all that is listed beside the reading order is: the standalone
manifests are only carried if they are there. -/
theorem isSome_of_carried
    (beside : ∀ link ∈ p.publication.resources, (p.archive.entry? link.href).isSome = true)
    {name : String} (listed : name ∈ p.carried) : (p.archive.entry? name).isSome = true := by
  rcases List.mem_append.mp (List.mem_eraseDups.mp listed) with manifest | linked
  · exact (List.mem_filter.mp manifest).2
  · obtain ⟨link, ancillary, rfl⟩ := List.mem_map.mp linked
    exact beside link ancillary

theorem carry_of_taken {o : Output} (takes : o.device.refused = none) {name : String}
    (present : (p.archive.entry? name).isSome = true) (fresh : name ∉ o.names) :
    ∃ m : Member, m.name = name ∧ p.carry name o = .ok () (o.settle.push (.member m)) := by
  obtain ⟨entry, found⟩ := Option.isSome_iff_exists.mp present
  obtain ⟨m, held, _, named, _⟩ := Archive.member_of_entry? found
  refine ⟨{ m with encrypted := false }, named, ?_⟩
  unfold carry
  rw [Action.bind_of_ok (Action.ofResult_of_ok (Archive.entry_eq_ok_iff.mpr found)),
    Action.bind_of_ok (Action.ofResult_of_ok held)]
  exact Output.copyMember_of_taken takes (named ▸ fresh)

theorem forM_carry_of_taken {names : List String} {o : Output} (takes : o.device.refused = none)
    (present : ∀ name ∈ names, (p.archive.entry? name).isSome = true) (distinct : names.Nodup)
    (fresh : ∀ name ∈ names, name ∉ o.names) :
    ∃ o', (names.forM p.carry : Action Output Unit) o = .ok () o' := by
  induction names generalizing o with
  | nil => exact ⟨o, rfl⟩
  | cons name names ih =>
    obtain ⟨here, others⟩ := List.forall_mem_cons.mp present
    obtain ⟨apart, distinct⟩ := List.nodup_cons.mp distinct
    obtain ⟨new, news⟩ := List.forall_mem_cons.mp fresh
    obtain ⟨m, named, first⟩ := carry_of_taken takes here new
    have later : (o.settle.push (.member m)).device.refused = none := by
      simpa [Output.push] using takes
    have behind : ∀ other ∈ names, other ∉ (o.settle.push (.member m)).names := by
      intro other listed member
      rw [Output.names_push, List.mem_append] at member
      rcases member with before | last
      · exact news other listed before
      · have same : other = m.name := List.mem_singleton.mp last
        exact apart (named ▸ same ▸ listed)
    obtain ⟨o', rest⟩ := ih later others distinct behind
    refine ⟨o', ?_⟩
    change (p.carry name >>= fun _ => names.forM p.carry) o = .ok () o'
    rw [Action.bind_of_ok first]
    exact rest

/-- A destination is started if all that is listed beside the reading order is there. -/
theorem newWriter_of_present
    (beside : ∀ link ∈ p.publication.resources, (p.archive.entry? link.href).isSome = true)
    {device : Device} (takes : device.refused = none) : ∃ w, p.newWriter device = .ok w := by
  obtain ⟨o, carried⟩ := forM_carry_of_taken (o := { device }) takes
    (fun _ listed => isSome_of_carried beside listed) p.nodup_carried
    (fun _ _ => List.not_mem_nil)
  refine ⟨{ output := o, ledger := .ofPublication p.publication, settings := p.settings }, ?_⟩
  unfold newWriter
  simp only [Action.perform_of_ok carried]
  rfl

theorem newWriter_of_complete (complete : p.IsComplete) {device : Device}
    (takes : device.refused = none) : ∃ w, p.newWriter device = .ok w := by
  refine newWriter_of_present (fun link ancillary => ?_) takes
  obtain ⟨entry, _, found, _⟩ := complete link (List.mem_append_right _ ancillary)
  rw [found]
  rfl

/-- Copies of a complete package to a destination that refuses nothing. The destination is started;
all copies succeed if and only if no link of the reading order leads where an earlier one does or
where something is carried over; and the writer is closed with success, whatever came of the copies,
if and only if nothing that is listed stands in the place of the publication. -/
theorem repackaged_iff (p : Package) (complete : p.IsComplete) (device : Device)
    (takes : device.refused = none) (flushes : device.refusesFlush = false) :
    ∃ w, p.newWriter device = .ok w ∧
      ((∀ outcome ∈ (Step.runAll (p.resources.map .copy) w).1, outcome = .ok ()) ↔
        (p.carried ++ p.publication.readingOrder.map Link.href).Nodup) ∧
      ((Writer.close (w.behindCopies p.resources)).outcome = .ok () ↔
        manifestLocation ∉ p.carried ++ p.publication.readingOrder.map Link.href) := by
  obtain ⟨w, started⟩ := newWriter_of_complete complete takes
  obtain ⟨present, taken, rfl⟩ := newWriter_behind started
  let w := writerBehind present device p.publication p.settings
  have willing : w.Willing := ⟨rfl, takes, flushes⟩
  have slots : w.output.settle.slots = present.map .member := rfl
  have seeded : w.output.names = p.carried := by
    rw [Output.names_of_slots slots, names_of_takenOver taken]
  have paths : p.resources.map Resource.path = p.publication.readingOrder.map Link.href := by
    rw [resources, List.map_map]
    rfl
  have sound : ∀ r ∈ p.resources, r.Sound := List.forall_mem_map.mpr fun link linked =>
    sound_resourceOf (complete link (List.mem_append_left _ linked))
  obtain ⟨reported, behind, names⟩ := Writer.copies_iff_of_willing sound willing
  refine ⟨w, started, ?_, ?_⟩
  · have fresh : (∀ r ∈ p.resources, r.path ∉ w.output.names) ↔
        ∀ name ∈ p.carried, ∀ href ∈ p.publication.readingOrder.map Link.href, name ≠ href := by
      rw [seeded, ← paths]
      constructor
      · rintro apart name carried _ copied rfl
        obtain ⟨r, listed, rfl⟩ := List.mem_map.mp copied
        exact apart r listed carried
      · exact fun apart r listed carried => apart _ carried _ (List.mem_map_of_mem listed) rfl
    rw [reported, fresh, paths, List.nodup_append]
    exact ⟨fun both => ⟨p.nodup_carried, both⟩, And.right⟩
  · have placed : ∀ ledger : Ledger, (∀ d ∈ Bindery.Ledger.document? ledger,
        d.location ∉ (w.behindCopies p.resources).output.names) ↔
        manifestLocation ∉ (w.behindCopies p.resources).output.names :=
      fun ledger => ⟨fun all => all _ rfl, fun apart => by rintro _ ⟨⟩; exact apart⟩
    rw [Writer.closed_iff_of_willing behind, placed, names, seeded, paths, List.mem_append]

end Package

/-! ## A page and what is listed beside it -/

def pagePublication (beside : List Link) : Publication where
  readingOrder := [{ href := "a.html", type := "text/html" }]
  resources := beside

/-- The page and a sheet, whatever is listed beside the page. -/
def pagePackage (beside : List Link) : Package where
  archive := [.ofContent "a.html" .stored [0x6f, 0x6b], .ofContent "a.css" .deflated [0x2a],
    (Ledger.document { publication := pagePublication beside, sourceLinks := [] }).member]
  publication := pagePublication beside
  settings := {}

theorem complete_page {beside : List Link} (present : ∀ link ∈ beside,
    ((pagePackage beside).archive.entry? link.href).isSome = true) :
    (pagePackage beside).IsComplete := by
  have whole : ∀ m ∈ (pagePackage beside).archive, m.IsWhole := by
    simp [pagePackage, LedgerDocument.member, Zip.isWhole_ofContent]
  have linked : ∀ link ∈ { href := "a.html", type := "text/html" } :: beside,
      ((pagePackage beside).archive.entry? link.href).isSome = true :=
    List.forall_mem_cons.mpr ⟨rfl, present⟩
  exact fun link listed => Package.holds_of_whole whole (linked link listed)

/-- A sheet that is listed twice. -/
def twiceSheet : List Link :=
  [{ href := "a.css", type := "text/css" }, { href := "a.css", type := "text/css" }]

def selfListed : List Link := [{ href := "manifest.json", type := "application/json" }]

theorem repackaged_twiceSheet :
    (pagePackage twiceSheet).IsComplete ∧ ∃ w, (pagePackage twiceSheet).newWriter {} = .ok w ∧
      (∀ outcome ∈ (Step.runAll ((pagePackage twiceSheet).resources.map .copy) w).1,
        outcome = .ok ()) ∧
      (Writer.close (w.behindCopies (pagePackage twiceSheet).resources)).outcome = .ok () := by
  have complete : (pagePackage twiceSheet).IsComplete :=
    complete_page (List.forall_mem_cons.mpr ⟨rfl, List.forall_mem_singleton.mpr rfl⟩)
  obtain ⟨w, started, reported, closed⟩ :=
    Package.repackaged_iff (pagePackage twiceSheet) complete {} rfl rfl
  have carried : (pagePackage twiceSheet).carried = ["a.css"] := rfl
  refine ⟨complete, w, started, reported.mpr ?_, closed.mpr ?_⟩
  · rw [carried]
    decide
  · rw [carried]
    decide

theorem opened_page {beside : List Link}
    (read : Publication.ofValue (pagePublication beside).toValue = .ok (pagePublication beside))
    (shallow : (pagePublication beside).toValue.depth ≤ Json.depthLimit)
    (again : (pagePublication beside).reread? = some (pagePublication beside)) :
    Package.ofArchive (pagePackage beside).archive {} = .ok (pagePackage beside) := by
  have writable : Ledger.Writable { publication := pagePublication beside, sourceLinks := [] } := {
    normal := Publication.normal_of_ofValue read
    fits := Publication.within_of_ofValue read (by decide) shallow
    normalSources := by simp
    fitSources := by simp }
  have elsewhere : manifestLocation ∉ ([.ofContent "a.html" .stored [0x6f, 0x6b],
      .ofContent "a.css" .deflated [0x2a]] : Archive).map Member.name := by decide
  exact (Package.ofArchive_behind_iff writable elsewhere).mpr ⟨again, rfl, rfl⟩

def selfListedWriter : Writer Ledger :=
  writerBehind [(Ledger.document
    { publication := pagePublication selfListed, sourceLinks := [] }).member] {}
    (pagePublication selfListed) {}

/-- The page is copied, but the manifest that was carried over leaves no place for the new one. -/
theorem selfListed_unclosed :
    Package.ofArchive (pagePackage selfListed).archive {} = .ok (pagePackage selfListed) ∧
      (pagePackage selfListed).IsComplete ∧
      (pagePackage selfListed).newWriter {} = .ok selfListedWriter ∧
      (∀ outcome ∈ (Step.runAll ((pagePackage selfListed).resources.map .copy)
        selfListedWriter).1, outcome = .ok ()) ∧
      (Writer.close (selfListedWriter.behindCopies (pagePackage selfListed).resources)).outcome ≠
        .ok () := by
  have complete : (pagePackage selfListed).IsComplete :=
    complete_page (List.forall_mem_singleton.mpr rfl)
  have sound : ∀ r ∈ (pagePackage selfListed).resources, r.Sound :=
    List.forall_mem_singleton.mpr (Package.sound_resourceOf (complete _ List.mem_cons_self))
  have seeded : selfListedWriter.output.names = ["manifest.json"] := rfl
  have paths : (pagePackage selfListed).resources.map Resource.path = ["a.html"] := rfl
  obtain ⟨reported, behind, names⟩ :=
    Writer.copies_iff_of_willing (w := selfListedWriter) sound ⟨rfl, rfl, rfl⟩
  refine ⟨opened_page rfl (by decide) rfl, complete, rfl, reported.mpr ⟨?_, ?_⟩, fun closed => ?_⟩
  · rw [paths]
    simp
  · refine List.forall_mem_singleton.mpr ?_
    rw [seeded]
    change "a.html" ∉ ["manifest.json"]
    decide
  · refine (Writer.closed_iff_of_willing behind).mp closed _ rfl ((names _).mpr (.inl ?_))
    rw [seeded]
    exact List.mem_cons_self

end Bindery.ReadingOrder
