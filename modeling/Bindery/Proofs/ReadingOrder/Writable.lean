import Bindery.Proofs.Package.Run
import Bindery.Proofs.Publication.Link
import Bindery.ReadingOrder.Ledger

/-! Ledgers whose publication can be written and read back. A ledger that starts from a publication
that was read is one, and every commit leaves it one: the link of an entry that is written anew is
made of parts of a link that was read, without its protection. -/
namespace Bindery.ReadingOrder

namespace Ledger

theorem status_linkFor (ledger : Ledger) (draft : Draft) :
    (ledger.linkFor draft).status = (draft.path, false) := by
  unfold linkFor
  cases found : ledger.sourceLinks.find? (·.href = draft.path) with
  | none => rfl
  | some link =>
    have same : link.href = draft.path := by simpa using List.find?_some found
    exact same ▸ Link.status_carriedOver link draft.type

theorem normal_linkFor {ledger : Ledger} (normal : ∀ link ∈ ledger.sourceLinks, link.Normal)
    (draft : Draft) : (ledger.linkFor draft).Normal := by
  unfold linkFor
  cases found : ledger.sourceLinks.find? (·.href = draft.path) with
  | none => exact Link.normal_bare draft.path draft.type
  | some link =>
    exact Link.normal_carriedOver (normal link (List.mem_of_find?_eq_some found)) draft.type

theorem depth_linkFor_le {ledger : Ledger}
    (bound : ∀ link ∈ ledger.sourceLinks, link.toValue.depth + 1 ≤ Json.depthLimit - 1)
    (draft : Draft) : (ledger.linkFor draft).toValue.depth + 1 ≤ Json.depthLimit - 1 := by
  unfold linkFor
  cases found : ledger.sourceLinks.find? (·.href = draft.path) with
  | none =>
    have flat := Link.depth_bare_le draft.path draft.type
    exact Nat.le_trans (Nat.add_le_add_right flat 1) (by decide)
  | some link =>
    exact Nat.le_trans (Nat.add_le_add_right (Link.depth_carriedOver_le link draft.type) 1)
      (bound link (List.mem_of_find?_eq_some found))

theorem rereads_linkFor {ledger : Ledger} (read : ∀ link ∈ ledger.sourceLinks, link.Rereads)
    (draft : Draft) : (ledger.linkFor draft).Rereads := by
  unfold linkFor
  cases found : ledger.sourceLinks.find? (·.href = draft.path) with
  | none => exact ⟨_, rfl⟩
  | some link =>
    obtain ⟨again, ran⟩ := read link (List.mem_of_find?_eq_some found)
    exact ⟨_, Link.reread?_carriedOver ran draft.type⟩

/-- The publication, and each link that a commit may start from, can be written and read back, up
to its numbers. -/
structure Writable (ledger : Ledger) : Prop where
  normal : ledger.publication.Normal
  fits : ledger.publication.Fits
  normalSources : ∀ link ∈ ledger.sourceLinks, link.Normal
  fitSources : ∀ link ∈ ledger.sourceLinks, link.toValue.depth + 1 ≤ Json.depthLimit - 1

theorem writable_ofPublication {p : Publication} (normal : p.Normal) (fits : p.Fits) :
    (ofPublication p).Writable where
  normal := { normal with readingOrder := by simp [ofPublication] }
  fits := { fits with readingOrder := by simp [ofPublication] }
  normalSources := normal.readingOrder
  fitSources := fits.readingOrder

theorem Writable.commit {ledger : Ledger} (writable : ledger.Writable) (draft : Draft) :
    (ledger.commit draft).Writable where
  normal := { writable.normal with
    readingOrder := List.forall_mem_append.mpr ⟨writable.normal.readingOrder,
      List.forall_mem_singleton.mpr (normal_linkFor writable.normalSources draft)⟩ }
  fits := { writable.fits with
    readingOrder := List.forall_mem_append.mpr ⟨writable.fits.readingOrder,
      List.forall_mem_singleton.mpr (depth_linkFor_le writable.fitSources draft)⟩ }
  normalSources := writable.normalSources
  fitSources := writable.fitSources

theorem Writable.committed {ledger : Ledger} (writable : ledger.Writable) (drafts : List Draft) :
    (Writer.committed drafts ledger).Writable := by
  induction drafts generalizing ledger with
  | nil => exact writable
  | cons draft drafts ih => exact ih (writable.commit draft)

theorem Writable.mark {settings : Settings} {m : Mark} {ledger marked : Ledger}
    (writable : ledger.Writable) (recorded : mark? settings m ledger = some (.ok marked)) :
    marked.Writable := by
  obtain ⟨_, _, same⟩ := Option.map_eq_some_iff.mp recorded
  cases same
  have normal : (protectionOf settings m).Normal := isRest_nil _
  have depth : (protectionOf settings m).toValue.depth ≤ 123 := by
    have shallow : (protectionOf settings m).toValue.depth = 1 := rfl
    omega
  have limit : Json.depthLimit - 1 = 123 + 2 + 1 := rfl
  constructor
  · exact { writable.normal with
      readingOrder := Publication.forall_mem_updateFirst writable.normal.readingOrder m.path
        fun before => Link.normal_protect before normal }
  · refine { writable.fits with
      readingOrder := Publication.forall_mem_updateFirst writable.fits.readingOrder m.path ?_ }
    intro link before
    rw [limit] at before ⊢
    exact Nat.add_le_add_right (Link.depth_protect_le depth (Nat.le_of_succ_le_succ before)) 1
  · exact writable.normalSources
  · exact writable.fitSources

/-- The numbers that the publication has, and those that a commit may add to it, can be read from
what is written for them. -/
structure Rereads (ledger : Ledger) : Prop where
  publication : ledger.publication.Rereads
  sources : ∀ link ∈ ledger.sourceLinks, link.Rereads

theorem rereads_ofPublication {p : Publication} (read : p.Rereads) : (ofPublication p).Rereads := by
  obtain ⟨others, links⟩ := (p.rereads_with_iff p.readingOrder).mp read
  exact ⟨others, links⟩

theorem Rereads.commit {ledger : Ledger} (read : ledger.Rereads) (draft : Draft) :
    (ledger.commit draft).Rereads := by
  obtain ⟨others, links⟩ :=
    (ledger.publication.rereads_with_iff ledger.publication.readingOrder).mp read.publication
  refine ⟨(ledger.publication.rereads_with_iff _).mpr ⟨others, ?_⟩, read.sources⟩
  exact List.forall_mem_append.mpr
    ⟨links, List.forall_mem_singleton.mpr (rereads_linkFor read.sources draft)⟩

theorem Rereads.mark {settings : Settings} {m : Mark} {ledger marked : Ledger}
    (read : ledger.Rereads) (recorded : mark? settings m ledger = some (.ok marked)) :
    marked.Rereads := by
  obtain ⟨_, _, same⟩ := Option.map_eq_some_iff.mp recorded
  cases same
  obtain ⟨others, links⟩ :=
    (ledger.publication.rereads_with_iff ledger.publication.readingOrder).mp read.publication
  refine ⟨(ledger.publication.rereads_with_iff _).mpr ⟨others, ?_⟩, read.sources⟩
  refine Publication.forall_mem_updateFirst links m.path ?_
  rintro link ⟨again, ran⟩
  exact ⟨_, Link.reread?_protect ran rfl⟩

theorem Rereads.committed {ledger : Ledger} (read : ledger.Rereads) (drafts : List Draft) :
    (Writer.committed drafts ledger).Rereads := by
  induction drafts generalizing ledger with
  | nil => exact read
  | cons draft drafts ih => exact ih (read.commit draft)

theorem publication_committed (drafts : List Draft) (ledger : Ledger) :
    (Writer.committed drafts ledger).publication = { ledger.publication with
      readingOrder := ledger.publication.readingOrder ++ drafts.map ledger.linkFor } := by
  induction drafts generalizing ledger with
  | nil => simp [Writer.committed]
  | cons draft drafts ih =>
    have rest := ih (ledger.commit draft)
    have begun : (ledger.commit draft).publication = { ledger.publication with
        readingOrder := ledger.publication.readingOrder ++ [ledger.linkFor draft] } := rfl
    rw [begun] at rest
    simp only [List.append_assoc, List.singleton_append] at rest
    exact rest

end Ledger

end Bindery.ReadingOrder
