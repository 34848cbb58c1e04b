import Bindery.Proofs.Epub.Mark
import Bindery.Proofs.UriPath.Again

/-! Cipher references as paths. A record is found again by its own URI, and this URI is a relative
path, unless the name that it was made for brings out a colon. -/
namespace Bindery.Epub

open Encryption (Manifest Record)
open UriPath (BringsOutColon IsRelativePath escaped?)

variable {reference uri : String}

theorem uri_of_recordFor? {manifest : Manifest} {record : Record}
    (found : manifest.recordFor? reference = some record) :
    escaped? reference = some record.uri := by
  rw [Manifest.recordFor?_eq_find?] at found
  obtain ⟨uri, escaped, first⟩ := Option.bind_eq_some_iff.mp found
  have same : record.uri = uri := by simpa using List.find?_some first
  rw [same, escaped]

/-- What is found for a path is found for every path with the same escaped form. -/
theorem recordFor?_congr (manifest : Manifest) {other : String}
    (same : escaped? reference = escaped? other) :
    manifest.recordFor? reference = manifest.recordFor? other := by
  rw [Manifest.recordFor?_eq_find?, Manifest.recordFor?_eq_find?, same]

theorem recordFor?_again_iff {manifest : Manifest} {record : Record}
    (found : manifest.recordFor? reference = some record) :
    manifest.recordFor? record.uri = some record ↔ escaped? record.uri = some record.uri := by
  constructor
  · exact uri_of_recordFor?
  · intro again
    rw [← recordFor?_congr manifest ((uri_of_recordFor? found).trans again.symm)]
    exact found

/-- An escaped path is its own escaped path, and the reference of a record is a relative path by
which the record is found, exactly if no colon is brought out. -/
theorem escaped_settles_iff (reference uri : String) (escaped : escaped? reference = some uri) :
    (escaped? uri = some uri ↔ ¬ BringsOutColon reference) ∧
    (∀ (manifest : Manifest) (record : Record), manifest.recordFor? reference = some record →
      (manifest.recordFor? record.uri = some record ↔ ¬ BringsOutColon reference)) ∧
    (∀ written, Ledger.reference reference = .ok written → written = uri ∧
      (IsRelativePath written ↔ ¬ BringsOutColon reference)) := by
  have colon := UriPath.colon_iff_bringsOut escaped
  have settles : escaped? uri = some uri ↔ ¬ BringsOutColon reference :=
    (UriPath.escaped_again_iff escaped).trans (not_congr colon)
  refine ⟨settles, ?_, ?_⟩
  · intro manifest record found
    have same : uri = record.uri :=
      Option.some.inj (escaped.symm.trans (uri_of_recordFor? found))
    rw [same] at settles
    exact (recordFor?_again_iff found).trans settles
  · intro written named
    have same : uri = written := Option.some.inj (escaped.symm.trans (reference_ok named).1)
    subst same
    exact ⟨rfl, (UriPath.isRelativePath_iff escaped).trans (not_congr colon)⟩

theorem escaped_settles_iff_blank :
    escaped? "a b.xhtml" = some "a%20b.xhtml" ∧ escaped? "a%20b.xhtml" = some "a%20b.xhtml" ∧
      IsRelativePath "a%20b.xhtml" ∧
      escaped? "a%3Ab c.xhtml" = some "a:b%20c.xhtml" ∧ BringsOutColon "a%3Ab c.xhtml" := by
  have blank : escaped? "a b.xhtml" = some "a%20b.xhtml" := by decide +kernel
  have again : escaped? "a%20b.xhtml" = some "a%20b.xhtml" := by decide +kernel
  have hidden : escaped? "a%3Ab c.xhtml" = some "a:b%20c.xhtml" := by decide +kernel
  have lost : escaped? "a:b%20c.xhtml" ≠ some "a:b%20c.xhtml" := by decide +kernel
  obtain ⟨settles, _, written⟩ := escaped_settles_iff _ _ blank
  have named := reference_of_escaped blank (by decide)
  refine ⟨blank, again, ?_, hidden, ?_⟩
  · exact (written _ named).2.mpr (settles.mp again)
  · exact Classical.not_not.mp fun free =>
      lost ((escaped_settles_iff _ _ hidden).1.mpr free)

/-- The record of a name in which an escape hides a colon: its reference reads as the scheme `a`. -/
def hiddenColon : Record := .of "a:b%20c.xhtml" "algorithm"

theorem hiddenColon_lost :
    Ledger.reference "a%3Ab c.xhtml" = .ok hiddenColon.uri ∧
      escaped? "a%3Ab c.xhtml" = some hiddenColon.uri ∧ escaped? hiddenColon.uri = some "" ∧
      Manifest.recordFor? [hiddenColon] "a%3Ab c.xhtml" = some hiddenColon ∧
      Manifest.recordFor? [hiddenColon] hiddenColon.uri = none ∧
      ¬ IsRelativePath hiddenColon.uri := by
  have escaped : escaped? "a%3Ab c.xhtml" = some hiddenColon.uri := by decide +kernel
  have opened : escaped? hiddenColon.uri = some "" := by decide +kernel
  refine ⟨reference_of_escaped escaped (by decide), escaped, opened, ?_, ?_, ?_⟩
  · rw [Manifest.recordFor?_eq_find?, escaped]
    rfl
  · rw [Manifest.recordFor?_eq_find?, opened]
    rfl
  · intro relative
    exact (UriPath.isRelativePath_iff escaped).mp relative (by decide)

end Bindery.Epub
