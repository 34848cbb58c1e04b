import Bindery.Proofs.ReadingOrder.Run

/-! Whether an archive and its reading order agree. On a device that can be flushed each entry of
the archive is linked once its writer is closed. On a device that refuses to be flushed nothing is
ever linked, and yet a writer that has written entries there is closed with success. -/
namespace Bindery.ReadingOrder

open Zip (Archive Member)

/-- A run on any device, from an archive and a publication on, that ends in a successful close. The
archive is then what was there, the entries of the run and the manifest; and these entries are the
linked ones, in their order, if and only if the device can be flushed or no step opened an entry
that was not there. -/
theorem archive_agrees_iff (present : Archive) (device : Device) (p : Publication)
    (settings : Settings) (steps : List Step) (w : Writer Ledger)
    (ran : (Step.runAll steps (writerBehind present device p settings)).2 = w)
    (closed : w.close.outcome = .ok ()) :
    ∃ written : Archive, w.close.archive = some (present ++ written ++ [w.ledger.document.member]) ∧
      (written.map Member.name = w.ledger.hrefs ↔
        device.refusesFlush = false ∨
          ∀ step ∈ steps, ∀ path ∈ step.opens?, path ∈ present.map Member.name) := by
  subst ran
  have slots : (writerBehind present device p settings).output.settle.slots =
      present.map .member := rfl
  rcases progress_runAll steps slots with lost | ⟨written, progress, iff⟩
  · exact absurd closed (not_closed_of_lost lost)
  refine ⟨written, (Writer.archive_of_close progress.slots closed).1, ?_⟩
  have hrefs : _ = [] ++ if device.refusesFlush then [] else written.map Member.name :=
    progress.hrefs
  rw [hrefs, ← iff]
  cases device.refusesFlush with
  | false => simp
  | true => simp

def page (path : String) : EntryPlan :=
  { path, type := "text/html", method := .stored, chunks := [[0x6f, 0x6b]] }

/-- A page that is written twice behind a style sheet, on a device that refuses a letter. -/
def repeatedPage : Writer Ledger :=
  (Step.runAll [.file (page "a.html"), .file (page "a.html")]
    (writerBehind [.ofContent "b.css" .stored []] { refused := some [0x7a] } {} {})).2

theorem archive_agrees_iff_repeatedPage :
    repeatedPage.close.outcome = .ok () ∧ ∃ written : Archive,
      repeatedPage.close.archive = some ([.ofContent "b.css" .stored []] ++ written ++
        [repeatedPage.ledger.document.member]) ∧
      written.map Member.name = repeatedPage.ledger.hrefs := by
  refine ⟨rfl, ?_⟩
  obtain ⟨written, left, iff⟩ := archive_agrees_iff [.ofContent "b.css" .stored []]
    { refused := some [0x7a] } {} {} [.file (page "a.html"), .file (page "a.html")] repeatedPage
    rfl rfl
  exact ⟨written, left, iff.mpr (.inl rfl)⟩

def strayPage : Writer Ledger :=
  (Step.runAll [.file (page "a.html")] (writerBehind [] { refusesFlush := true } {} {})).2

/-- The page is in the archive and not linked, and the writer is closed with success. -/
theorem strayPage_unlinked :
    strayPage.close.outcome = .ok () ∧
      strayPage.close.archive.map (·.map Member.name) = some ["a.html", "manifest.json"] ∧
      strayPage.ledger.hrefs = [] :=
  ⟨rfl, rfl, rfl⟩

end Bindery.ReadingOrder
