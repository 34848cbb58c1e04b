import Bindery.Proofs.Epub.Pass
import Bindery.Proofs.UriPath.Parts

/-! Records without a target. A reference that has no path is looked up by the empty one, and so it
finds a record whose cipher reference is empty. An entry of such a name counts as encrypted because
of this record, and a pass leaves it as it is. No other entry is touched by records of this kind. -/
namespace Bindery.Epub

open Zip (Archive Member)
open Encryption (Manifest Record)
open UriPath (IsPathless escaped?)

/-- The manifest finds a record without a target for a path. -/
def Misleads (manifest : Manifest) (path : String) : Prop :=
  IsPathless path ∧ ∃ record ∈ manifest, record.uri = ""

def targeted (manifest : Manifest) : Manifest := manifest.filter (·.uri ≠ "")

theorem misleads_iff {manifest : Manifest} {path : String} :
    (∃ record, manifest.recordFor? path = some record ∧ record.uri = "") ↔
      Misleads manifest path := by
  simp only [Manifest.recordFor?_eq_find?, Option.bind_eq_some_iff]
  constructor
  · rintro ⟨record, ⟨uri, escaped, found⟩, empty⟩
    have same : record.uri = uri := by simpa using List.find?_some found
    rw [← same, empty] at escaped
    exact ⟨UriPath.escaped?_eq_empty_iff.mp escaped, record, List.mem_of_find?_eq_some found, empty⟩
  · rintro ⟨pathless, record, listed, empty⟩
    have some : (manifest.find? (·.uri = "")).isSome = true :=
      List.find?_isSome.mpr ⟨record, listed, by simpa using empty⟩
    obtain ⟨first, found⟩ := Option.isSome_iff_exists.mp some
    have same : first.uri = "" := by simpa using List.find?_some found
    exact ⟨first, ⟨"", UriPath.escaped?_eq_empty_iff.mpr pathless, found⟩, same⟩

/-- Records without a target make a difference only where they mislead. -/
theorem recordFor?_targeted (manifest : Manifest) (path : String) :
    (targeted manifest).recordFor? path =
      if escaped? path = some "" then none else manifest.recordFor? path := by
  rw [Manifest.recordFor?_eq_find?, Manifest.recordFor?_eq_find?, targeted]
  cases escaped? path with
  | none => rfl
  | some uri =>
    simp only [Option.bind_some, Option.some.injEq, List.find?_filter]
    by_cases empty : uri = ""
    · subst empty
      rw [if_pos rfl, List.find?_eq_none]
      simp
    · rw [if_neg empty]
      congr 1
      funext record
      by_cases same : record.uri = uri
      · simp [same, empty]
      · simp [same]

theorem escaped?_of_misleads {manifest : Manifest} {path : String}
    (misleads : Misleads manifest path) : escaped? path = some "" :=
  UriPath.escaped?_eq_empty_iff.mpr misleads.1

theorem recordFor?_targeted_iff {manifest : Manifest} {path : String} :
    (targeted manifest).recordFor? path = manifest.recordFor? path ↔ ¬ Misleads manifest path := by
  rw [recordFor?_targeted]
  constructor
  · intro same misleads
    obtain ⟨record, found, _⟩ := misleads_iff.mpr misleads
    rw [if_pos (escaped?_of_misleads misleads), found] at same
    cases same
  · intro sound
    split
    · rename_i empty
      cases found : manifest.recordFor? path with
      | none => rfl
      | some record =>
        refine absurd (misleads_iff.mp ⟨record, found, ?_⟩) sound
        rw [Manifest.recordFor?_eq_find?, empty] at found
        simpa using List.find?_some (p := fun r : Record => decide (r.uri = "")) found
    · rfl

namespace Package

variable {p : Package} {device : Device} {w : Writer Ledger} {cipher : Cipher}

/-- The container without the records that have no target. -/
def targeted (p : Package) : Package := { p with records := Epub.targeted p.records }

theorem encrypted_of_misleads {entry : Zip.Entry} (misleads : Misleads p.records entry.name) :
    (p.resourceOf entry).isEncrypted = true ∧
      (p.targeted.resourceOf entry).isEncrypted = false := by
  obtain ⟨record, found, _⟩ := misleads_iff.mpr misleads
  constructor
  · exact Option.isSome_iff_exists.mpr ⟨record, found⟩
  · change ((Epub.targeted p.records).recordFor? entry.name).isSome = false
    rw [recordFor?_targeted, if_pos (escaped?_of_misleads misleads)]
    rfl

theorem resourceOf_targeted_iff (entry : Zip.Entry) :
    p.targeted.resourceOf entry = p.resourceOf entry ↔ ¬ Misleads p.records entry.name := by
  constructor
  · intro same misleads
    obtain ⟨encrypted, plain⟩ := encrypted_of_misleads misleads
    rw [same, encrypted] at plain
    cases plain
  · intro sound
    have found : p.targeted.records.recordFor? entry.name = p.records.recordFor? entry.name :=
      recordFor?_targeted_iff.mpr sound
    unfold resourceOf
    rw [found]
    rfl

/-- A pass that ends well leaves what counts as encrypted in the form that it had. -/
theorem kept_of_passes (started : p.newWriter device = .ok w)
    (passes : w.Passes cipher p.resources) :
    ∃ left, (Writer.close (w.behindPass cipher p.resources)).archive = some left ∧
      ∀ r ∈ p.resources, r.isEncrypted = true → Writer.copyOf r ∈ left := by
  obtain ⟨slots, _⟩ := newWriter_ok started
  rcases Writer.copied_runAll _ slots passes.reported with doomed | ⟨added, grown, copied⟩
  · exact absurd passes.closed (Writer.not_closed_of_doomed doomed)
  refine ⟨_, (Writer.archive_of_close grown passes.closed).1, fun r listed encrypted => ?_⟩
  apply List.mem_append_left
  apply List.mem_append_right
  apply copied r
  refine List.mem_map.mpr ⟨r, listed, ?_⟩
  simp [Step.pass, encrypted]

/-- A record without a target is found for the paths that are looked up by an empty one, if there is
such a record, and for no other. An entry of such a path counts as encrypted, which it would not
without these records, and every pass that ends well leaves it plain. All other entries are what
they would be without these records. -/
theorem targetless_protects_iff (p : Package) :
    (∀ path, (∃ record, p.records.recordFor? path = some record ∧ record.uri = "") ↔
      Misleads p.records path) ∧
    (∀ entry, p.targeted.resourceOf entry = p.resourceOf entry ↔
      ¬ Misleads p.records entry.name) ∧
    (∀ entry, Misleads p.records entry.name → (p.resourceOf entry).isEncrypted = true ∧
      (p.targeted.resourceOf entry).isEncrypted = false) ∧
    ∀ (device : Device) (w : Writer Ledger) (cipher : Cipher), p.newWriter device = .ok w →
      w.Passes cipher p.resources →
      ∃ left, (Writer.close (w.behindPass cipher p.resources)).archive = some left ∧
        ∀ r ∈ p.resources, Misleads p.records r.path → Writer.copyOf r ∈ left := by
  refine ⟨fun path => misleads_iff, resourceOf_targeted_iff, fun _ => encrypted_of_misleads, ?_⟩
  intro device w cipher started passes
  obtain ⟨left, closed, kept⟩ := kept_of_passes started passes
  refine ⟨left, closed, fun r listed misleads => kept r listed ?_⟩
  obtain ⟨record, found, _⟩ := misleads_iff.mpr misleads
  rw [(part_of_mem listed).2.2, found]
  rfl

end Package

/-! ## A page that is named like a scheme -/

/-- A page whose name has a colon in its first segment. -/
def schemePage : Member := .ofContent "a:b.xhtml" .stored [0x6f, 0x6b]

def schemeParts : Archive := [.ofContent containerLocation .stored [0x3c], schemePage]

def targetlessLedger : Ledger := { records := [{}] }

def schemeBook : Package where
  archive := [Package.declaration] ++ schemeParts ++
    targetlessLedger.document?.toList.map LedgerDocument.member
  records := targetlessLedger.records
  settings := {}

theorem opened_schemeBook : Package.ofArchive schemeBook.archive {} = .ok schemeBook := by
  have named : ∀ m ∈ schemeParts, isPart m.name = true := by
    have names : schemeParts.map Member.name = ["META-INF/container.xml", "a:b.xhtml"] := rfl
    have parts : ∀ name ∈ ["META-INF/container.xml", "a:b.xhtml"], isPart name = true := by decide
    exact fun m listed => parts m.name (names ▸ List.mem_map_of_mem listed)
  have contained : (schemeBook.archive.entry? containerLocation).isSome = true := by
    refine (Zip.Archive.isSome_entry?_iff _ _).mpr ?_
    exact List.mem_map_of_mem (List.mem_filter.mpr
      ⟨List.mem_cons_of_mem _ List.mem_cons_self, rfl⟩)
  exact Package.ofArchive_ok_iff.mpr ⟨contained,
    Package.recordsIn_of_parts targetlessLedger named, rfl, rfl⟩

theorem whole_schemeBook : ∀ m ∈ schemeBook.archive, m.IsWhole := by
  refine List.forall_mem_append.mpr ⟨List.forall_mem_append.mpr ⟨?_, ?_⟩, ?_⟩
  · exact List.forall_mem_singleton.mpr (Zip.isWhole_ofContent _ _ _)
  · simp [schemeParts, schemePage, Zip.isWhole_ofContent]
  · exact List.forall_mem_map.mpr fun d _ => Zip.isWhole_ofContent _ _ _

theorem passes_schemeBook :
    (schemeBook.destination {}).Passes Package.turning schemeBook.resources := by
  apply Package.passes_of_whole whole_schemeBook
  · decide
  · have named : ∀ r ∈ schemeBook.resources, r.canEncrypt = true → r.isEncrypted = true := by
      decide
    intro r listed may plain
    rw [named r listed may] at plain
    cases plain
  · rfl
  · rfl

theorem misleads_schemeBook : Misleads schemeBook.records "a:b.xhtml" :=
  ⟨UriPath.escaped?_eq_empty_iff.mp (by decide), {}, List.mem_cons_self, rfl⟩

theorem targetless_protects_schemeBook :
    schemeBook.newWriter {} = .ok (schemeBook.destination {}) ∧
      (schemeBook.destination {}).Passes Package.turning schemeBook.resources ∧
      Misleads schemeBook.records "a:b.xhtml" ∧
      ∃ left, (Writer.close ((schemeBook.destination {}).behindPass Package.turning
        schemeBook.resources)).archive = some left ∧
        ∀ r ∈ schemeBook.resources, r.path = "a:b.xhtml" → Writer.copyOf r ∈ left := by
  obtain ⟨_, _, _, kept⟩ := Package.targetless_protects_iff schemeBook
  obtain ⟨left, closed, plain⟩ := kept {} _ Package.turning rfl passes_schemeBook
  refine ⟨rfl, passes_schemeBook, misleads_schemeBook, left, closed, fun r listed path => ?_⟩
  exact plain r listed (path ▸ misleads_schemeBook)

/-- A record without a cipher reference stands for the page, which is not encrypted, and a pass
leaves its octets as they are. -/
theorem schemeBook_left_plain :
    Package.ofArchive schemeBook.archive {} = .ok schemeBook ∧
      schemeBook.records.recordFor? "a:b.xhtml" = some {} ∧ ({} : Record).uri = "" ∧
      schemeBook.resources.map Resource.status =
        [("META-INF/container.xml", false), ("a:b.xhtml", true)] ∧
      (schemeBook.destination {}).Passes Package.turning schemeBook.resources ∧
      ∃ left, (Writer.close ((schemeBook.destination {}).behindPass Package.turning
        schemeBook.resources)).archive = some left ∧
        schemePage ∈ left := by
  have started : schemeBook.newWriter {} = .ok (schemeBook.destination {}) := rfl
  obtain ⟨left, closed, kept⟩ := Package.kept_of_passes started passes_schemeBook
  refine ⟨opened_schemeBook, rfl, rfl, rfl, passes_schemeBook, left, closed, ?_⟩
  have listed : schemeBook.resourceOf (.of schemePage 2) ∈ schemeBook.resources :=
    List.mem_cons_of_mem _ List.mem_cons_self
  have whole : Writer.copyOf (schemeBook.resourceOf (.of schemePage 2)) = schemePage :=
    Package.copyOf_resourceOf rfl (Zip.isPacked_ofContent _ _ _)
  rw [← whole]
  exact kept _ listed rfl

end Bindery.Epub
