import Bindery.Proofs.Epub.Copies
import Bindery.Proofs.Epub.Mark

/-! Encryption passes over EPUB containers. What a pass leaves behind is a container in which every
resource that may be encrypted has a record, so that another pass copies all of it, and the copies
are the members that were there. -/
namespace Bindery

open Zip (Archive Entry Member Method Output)

namespace Writer

variable {α : Type} [Ledger α]

def behindPass (w : Writer α) (cipher : Cipher) (resources : List Resource) : Writer α :=
  (Step.runAll (resources.map (Step.pass cipher)) w).2

/-- Every step of a pass succeeds, and the writer is closed with success. -/
structure Passes (w : Writer α) (cipher : Cipher) (resources : List Resource) : Prop where
  reported : ∀ outcome ∈ (Step.runAll (resources.map (Step.pass cipher)) w).1, outcome = .ok ()
  closed : (close (w.behindPass cipher resources)).outcome = .ok ()

end Writer

namespace Epub

open Encryption (Manifest)
open Writer (behindPass)

structure Passed (w w' : Writer Ledger) (archive : Archive) (order : List Resource)
    (parts : Archive) : Prop where
  slots : w'.output.settle.slots = (archive ++ parts).map .member
  names : parts.map Member.name = order.map Resource.path
  packed : ∀ m ∈ parts, m.IsPacked
  distinct : (archive.map Member.name).Nodup → ((archive ++ parts).map Member.name).Nodup
  keeps : ∀ path, (w.ledger.records.recordFor? path).isSome = true →
    (w'.ledger.records.recordFor? path).isSome = true
  covers : ∀ r ∈ order, r.canEncrypt = true → r.isEncrypted = false →
    (w'.ledger.records.recordFor? r.path).isSome = true

section
variable {w v w' : Writer Ledger} {archive parts : Archive} {order : List Resource} {r : Resource}
  {cipher : Cipher}

theorem Passed.nil (slots : w.output.settle.slots = archive.map .member) :
    Passed w w archive [] [] where
  slots := by simpa using slots
  names := rfl
  packed := by simp
  distinct := by simp
  keeps := fun _ found => found
  covers := by simp

theorem Passed.cons {m : Member} (first : Passed w v archive [r] [m])
    (rest : Passed v w' (archive ++ [m]) order parts) :
    Passed w w' archive (r :: order) (m :: parts) where
  slots := by simpa using rest.slots
  names := by
    have here := first.names
    simp only [List.map_cons, List.map_nil, List.cons.injEq, and_true] at here
    rw [List.map_cons, List.map_cons, here, rest.names]
  packed := List.forall_mem_cons.mpr ⟨first.packed m (List.mem_singleton.mpr rfl), rest.packed⟩
  distinct := by
    intro before
    simpa using rest.distinct (first.distinct before)
  keeps := fun path found => rest.keeps path (first.keeps path found)
  covers := by
    intro s listed may plain
    rcases List.mem_cons.mp listed with rfl | later
    · exact rest.keeps _ (first.covers _ (List.mem_singleton.mpr rfl) may plain)
    · exact rest.covers s later may plain

theorem passed_copy (may : r.isEncrypted = true ∨ r.canEncrypt = false)
    (slots : w.output.settle.slots = archive.map .member)
    (reported : ((Step.copy r).run.perform w).1 = .ok ()) :
    ((Step.copy r).run.perform w).2.Doomed ∨
    ∃ m, Passed w ((Step.copy r).run.perform w).2 archive [r] [m] := by
  rcases Writer.copy_ok slots reported with doomed | ⟨draft, _, fresh, rest, ledger⟩
  · exact .inl doomed
  right
  refine ⟨Writer.copyOf r, rest, rfl, ?_, Archive.nodup_behind fresh, ?_, ?_⟩
  · exact List.forall_mem_singleton.mpr (Zip.isPacked_ofContent _ _ _)
  · intro path found
    rw [ledger]
    exact found
  · intro s listed can plain
    obtain rfl := List.mem_singleton.mp listed
    rcases may with encrypted | barred
    · rw [plain] at encrypted
      cases encrypted
    · rw [can] at barred
      cases barred

theorem passed_encrypt (slots : w.output.settle.slots = archive.map .member)
    (reported : ((Step.encrypt cipher r).run.perform w).1 = .ok ()) :
    ((Step.encrypt cipher r).run.perform w).2.Doomed ∨
    ∃ m, Passed w ((Step.encrypt cipher r).run.perform w).2 archive [r] [m] := by
  rcases Writer.encrypt_cases w cipher r with ⟨e, _, performed⟩ |
    ⟨bytes, _, outcome, v, entered, performed⟩
  · rw [performed] at reported
    cases reported
  rw [performed] at reported ⊢
  cases outcome with
  | error e => cases reported
  | ok =>
    have reported : ((Writer.mark (Writer.markOf cipher r)).perform v).1 = .ok () := reported
    change ((Writer.mark (Writer.markOf cipher r)).perform v).2.Doomed ∨
      ∃ m, Passed w ((Writer.mark (Writer.markOf cipher r)).perform v).2 archive [r] [m]
    rcases entered.ok slots with doomed | ⟨draft, label, fresh, rest, ledger, _⟩
    · exact .inl (doomed.mark _)
    right
    have become := marked v (Writer.markOf cipher r)
    have written : v.ledger.committed.lookup (Writer.markOf cipher r).path =
        some draft.plaintextDeflated := by
      rw [ledger]
      exact lookup_commit (Prod.mk.inj label).1 w.ledger
    refine ⟨.ofContent r.path .stored (cipher.encrypt bytes), ?_, rfl, ?_,
      Archive.nodup_behind fresh, ?_, ?_⟩
    · rw [Writer.output_mark]
      exact rest
    · exact List.forall_mem_singleton.mpr (Zip.isPacked_ofContent _ _ _)
    · intro path found
      have same : v.ledger.records = w.ledger.records := by
        rw [ledger]
        rfl
      rw [← same] at found
      exact become.covered found
    · intro s listed _ _
      obtain rfl := List.mem_singleton.mp listed
      exact become.covers reported written

/-- A step of a pass that succeeds writes one entry and keeps all records; if it encrypts, the
resource has a record behind it. -/
theorem pass_ok (slots : w.output.settle.slots = archive.map .member)
    (reported : ((Step.pass cipher r).run.perform w).1 = .ok ()) :
    ((Step.pass cipher r).run.perform w).2.Doomed ∨
    ∃ m, Passed w ((Step.pass cipher r).run.perform w).2 archive [r] [m] := by
  unfold Step.pass at reported ⊢
  by_cases plain : (r.isEncrypted || !r.canEncrypt) = true
  · rw [if_pos plain] at reported ⊢
    exact passed_copy (by simpa using plain) slots reported
  · rw [if_neg plain] at reported ⊢
    exact passed_encrypt slots reported

theorem passes_ok (order : List Resource) (slots : w.output.settle.slots = archive.map .member)
    (reported : ∀ outcome ∈ (Step.runAll (order.map (Step.pass cipher)) w).1, outcome = .ok ()) :
    (w.behindPass cipher order).Doomed ∨
    ∃ parts, Passed w (w.behindPass cipher order) archive order parts := by
  unfold behindPass
  -- On the resources, with whatever archive the ones before have left.
  induction order generalizing w archive with
  | nil => exact .inr ⟨[], Passed.nil slots⟩
  | cons r order ih =>
    rw [List.map_cons, outcomes_cons, List.forall_mem_cons] at reported
    rw [List.map_cons, runAll_cons]
    rcases pass_ok slots reported.1 with doomed | ⟨m, first⟩
    · exact .inl (Writer.doomed_runAll _ doomed)
    rcases ih first.slots reported.2 with doomed | ⟨parts, rest⟩
    · exact .inl doomed
    · exact .inr ⟨m :: parts, first.cons rest⟩

end

namespace Package

theorem copyOf_resourceOf {p : Package} {m : Member} {position : Nat}
    (here : p.archive[position]? = some m) (packed : m.IsPacked) :
    Writer.copyOf (p.resourceOf (.of m position)) = m := by
  obtain ⟨method, content, same⟩ := packed
  have kind : m.packing.method = method := by
    rw [same]
    rfl
  have found : p.archive.contentOf (.of m position) = .ok content := by
    unfold Archive.contentOf
    rw [Archive.memberOf_of here, same]
    exact Zip.Member.content_ofContent _ _ _
  have arrived : Writer.copied (p.resourceOf (.of m position)) = content := by
    simp only [Writer.copied, resourceOf, found]
    rfl
  calc Writer.copyOf (p.resourceOf (.of m position))
      = .ofContent m.name m.packing.method (Writer.copied (p.resourceOf (.of m position))) := rfl
    _ = .ofContent m.name method content := by rw [kind, arrived]
    _ = m := same.symm

theorem copies_resources {p : Package} (packed : ∀ m ∈ p.archive, m.IsPacked) :
    p.resources.map Writer.copyOf =
      (p.archive.filter Archive.isFile).filter fun m => isPart m.name := by
  let kept := (p.archive.zipIdx.filter fun e => Archive.isFile e.1).filter fun e => isPart e.1.name
  have listed : p.resources = kept.map fun e => p.resourceOf (.of e.1 e.2) := by
    rw [resources, Archive.index, List.filter_map, List.map_map]
    rfl
  have copies : ∀ e ∈ kept, Writer.copyOf (p.resourceOf (.of e.1 e.2)) = e.1 := by
    intro e among
    have placed := (List.mem_filter.mp (List.mem_filter.mp among).1).1
    have here := List.mem_zipIdx_iff_getElem?.mp placed
    exact copyOf_resourceOf here (packed _ (List.mem_of_getElem? here))
  calc p.resources.map Writer.copyOf
      = kept.map (fun e => Writer.copyOf (p.resourceOf (.of e.1 e.2))) := by
        rw [listed, List.map_map]
        rfl
    _ = kept.map Prod.fst := List.map_congr_left copies
    _ = ((p.archive.zipIdx.map Prod.fst).filter Archive.isFile).filter
        (fun m => isPart m.name) := by
        rw [List.filter_map, List.filter_map]
        rfl
    _ = _ := by rw [List.zipIdx_map_fst]

theorem document?_congr (first second : Ledger) (same : first.records = second.records) :
    first.document? = second.document? := by
  unfold Ledger.document?
  rw [same]

def documents (records : Manifest) : Archive :=
  (({ records } : Ledger).document?).toList.map LedgerDocument.member

/-- A container as it is made by this library: the declaration, members of different names that are
its resources, and the document of its records. -/
structure IsMade (p : Package) : Prop where
  archive : p.archive = [declaration] ++ p.resources.map Writer.copyOf ++ documents p.records
  distinct : (p.resources.map Resource.path).Nodup

def IsSealed (p : Package) : Prop :=
  ∀ r ∈ p.resources, r.canEncrypt = true → r.isEncrypted = true

section
variable {p : Package} {device : Device} {w : Writer Ledger} {cipher : Cipher}

theorem packed_documents (records : Manifest) : ∀ m ∈ documents records, m.IsPacked := by
  intro m listed
  obtain ⟨d, _, rfl⟩ := List.mem_map.mp listed
  exact Zip.isPacked_ofContent _ _ _

theorem IsMade.whole (made : p.IsMade) : ∀ m ∈ p.archive, m.IsWhole := by
  intro m listed
  rw [made.archive] at listed
  rcases List.mem_append.mp listed with front | document
  · rcases List.mem_append.mp front with first | part
    · obtain rfl := List.mem_singleton.mp first
      exact Zip.isWhole_ofContent _ _ _
    · obtain ⟨r, _, rfl⟩ := List.mem_map.mp part
      exact Zip.isWhole_ofContent _ _ _
  · exact (packed_documents _ m document).isWhole

theorem canEncrypt_of_mem {r : Resource} (listed : r ∈ p.resources) :
    r.canEncrypt = mayEncrypt r.path := by
  obtain ⟨entry, _, rfl⟩ := List.mem_map.mp listed
  rfl

theorem record_of_passed {w' : Writer Ledger} {archive parts : Archive} {path : String}
    (passed : Passed w w' archive p.resources parts) (carried : w.ledger.records = p.records)
    (among : path ∈ p.resources.map Resource.path) (may : mayEncrypt path = true) :
    (w'.ledger.records.recordFor? path).isSome = true := by
  obtain ⟨source, member, rfl⟩ := List.mem_map.mp among
  cases plain : source.isEncrypted with
  | true =>
    apply passed.keeps
    rw [carried, ← (part_of_mem member).2.2]
    exact plain
  | false =>
    apply passed.covers source member ?_ plain
    rw [canEncrypt_of_mem member]
    exact may

theorem passed_container {archive : Archive} {settings : Settings} (later : Settings)
    (opened : ofArchive archive settings = .ok p) (started : p.newWriter device = .ok w)
    (passes : w.Passes cipher p.resources) :
    ∃ p', (Writer.close (w.behindPass cipher p.resources)).archive = some p'.archive ∧
      ofArchive p'.archive later = .ok p' ∧ p'.IsMade ∧ p'.IsSealed ∧
      p'.resources.map Resource.path = p.resources.map Resource.path := by
  obtain ⟨slots, carried⟩ := newWriter_ok started
  rcases passes_ok p.resources slots passes.reported with doomed | ⟨parts, passed⟩
  · exact absurd passes.closed (Writer.not_closed_of_doomed doomed)
  have among : ∀ m ∈ parts, m.name ∈ p.resources.map Resource.path := by
    intro m listed
    rw [← passed.names]
    exact List.mem_map_of_mem listed
  obtain ⟨named, files⟩ := part_of_names among
  have arrived : containerLocation ∈ parts.map Member.name := by
    rw [passed.names]
    exact container_mem_paths opened
  obtain ⟨p', reopens, whole, records, paths⟩ :=
    reopened (w.behindPass cipher p.resources).ledger later named files arrived
  obtain ⟨left, _⟩ := Writer.archive_of_close passed.slots passes.closed
  have document : documents p'.records = ((w.behindPass cipher p.resources).ledger.document?
      ).toList.map LedgerDocument.member := by
    rw [documents, document?_congr _ (w.behindPass cipher p.resources).ledger records]
  have packed : ∀ m ∈ p'.archive, m.IsPacked := by
    rw [whole, ← document]
    refine List.forall_mem_append.mpr ⟨List.forall_mem_append.mpr ⟨?_, passed.packed⟩, ?_⟩
    · exact List.forall_mem_singleton.mpr (Zip.isPacked_ofContent _ _ _)
    · exact packed_documents _
  have copies : p'.resources.map Writer.copyOf = parts := by
    rw [copies_resources packed, whole]
    exact filter_parts _ named files
  refine ⟨p', ?_, ?_, ⟨?_, ?_⟩, ?_, ?_⟩
  · rw [whole]
    exact left
  · rw [whole]
    exact reopens
  · rw [copies, document]
    exact whole
  · have distinct := passed.distinct (List.nodup_cons.mpr ⟨List.not_mem_nil, List.nodup_nil⟩)
    rw [List.map_append] at distinct
    rw [paths]
    exact (List.nodup_append.mp distinct).2.1
  · intro r listed can
    have path : r.path ∈ p.resources.map Resource.path := by
      rw [← passed.names, ← paths]
      exact List.mem_map_of_mem listed
    rw [canEncrypt_of_mem listed] at can
    rw [(part_of_mem listed).2.2, records]
    exact record_of_passed passed carried path can
  · rw [paths, passed.names]

theorem IsSealed.pass_eq (whole : p.IsSealed) (cipher : Cipher) :
    p.resources.map (Step.pass cipher) = p.resources.map .copy := by
  apply List.map_congr_left
  intro r listed
  unfold Step.pass
  apply if_pos
  cases can : r.canEncrypt with
  | false => simp
  | true => simp [whole r listed can]

theorem IsSealed.passes_iff (whole : p.IsSealed) :
    w.Passes cipher p.resources ↔ w.CopiesAll p.resources p.resources := by
  have same := whole.pass_eq cipher
  constructor
  · rintro ⟨reported, closed⟩
    unfold behindPass at closed
    rw [same] at reported closed
    exact ⟨List.Perm.refl _, reported, closed⟩
  · rintro ⟨_, reported, closed⟩
    constructor
    · rw [same]
      exact reported
    · unfold behindPass
      rw [same]
      exact closed

theorem IsMade.copied (made : p.IsMade) (started : p.newWriter device = .ok w)
    (all : w.CopiesAll p.resources p.resources) :
    (Writer.close (w.behindCopies p.resources)).archive = some p.archive := by
  obtain ⟨slots, carried⟩ := newWriter_ok started
  obtain ⟨drafts, _, _, left, _⟩ := all.archive slots
  have same : (Writer.committed drafts w.ledger).records = p.records := by
    rw [records_committed, carried]
  have document : (Bindery.Ledger.document? (Writer.committed drafts w.ledger)).toList.map
      LedgerDocument.member = documents p.records := by
    rw [documents, ← document?_congr (Writer.committed drafts w.ledger) _ same]
    rfl
  rw [left, document, ← made.archive]

theorem IsMade.copiesAll (made : p.IsMade) (takes : device.refused = none)
    (flushes : device.refusesFlush = false) :
    (p.destination device).CopiesAll p.resources p.resources := by
  have slots : (p.destination device).output.settle.slots = [declaration].map .member :=
    Output.slots_settle_opened _ _
  apply Writer.copiesAll_of_willing (List.Perm.refl _) (sound_of_mem made.whole) made.distinct
    (p.destination_willing takes flushes) slots
  · exact fun r listed => fresh_of_isPart (part_of_mem listed).1
  · intro drafts d given
    rw [location_of_document? given]
    exact location_not_mem (List.forall_mem_map.mpr fun r listed => (part_of_mem listed).1)

def Nameable (r : Resource) : Prop :=
  r.canEncrypt = true → r.isEncrypted = false →
    ∃ uri, UriPath.escaped? r.path = some uri ∧ uri ≠ ""

theorem pass_of_willing (cipher : Cipher) {r : Resource} (sound : r.Sound) (named : Nameable r)
    (willing : w.Willing) (fresh : r.path ∉ w.output.names) :
    ((Step.pass cipher r).run.perform w).1 = .ok () ∧
      ((Step.pass cipher r).run.perform w).2.Willing ∧
      ((Step.pass cipher r).run.perform w).2.output.names = w.output.names ++ [r.path] := by
  unfold Step.pass
  by_cases plain : (r.isEncrypted || !r.canEncrypt) = true
  · rw [if_pos plain]
    obtain ⟨draft, ran⟩ := Writer.copy_of_willing willing sound fresh
    rw [ran]
    exact ⟨rfl, willing.opened _ _, Output.names_opened _ _⟩
  · rw [if_neg plain]
    have kind : r.isEncrypted = false ∧ r.canEncrypt = true := by simpa using plain
    obtain ⟨uri, escaped, solid⟩ := named kind.2 kind.1
    obtain ⟨bytes, draft, path, ran⟩ := Writer.encrypt_of_willing willing cipher sound fresh
    have marks := mark_committed (m := Writer.markOf cipher r)
      (w := { w with
        output := w.output.opened
          { name := r.path, method := .stored, content := cipher.encrypt bytes }
        ledger := Bindery.Ledger.commit draft w.ledger })
      (lookup_commit path w.ledger) escaped solid
    rw [ran, marks]
    exact ⟨rfl, willing.opened _ _, Output.names_opened _ _⟩

theorem pass_run_of_willing (cipher : Cipher) {order : List Resource}
    (sound : ∀ r ∈ order, r.Sound) (named : ∀ r ∈ order, Nameable r)
    (distinct : (order.map Resource.path).Nodup)
    (willing : w.Willing) (fresh : ∀ r ∈ order, r.path ∉ w.output.names) :
    (∀ outcome ∈ (Step.runAll (order.map (Step.pass cipher)) w).1, outcome = .ok ()) ∧
      (w.behindPass cipher order).Willing := by
  unfold behindPass
  induction order generalizing w with
  | nil => exact ⟨by simp [Step.runAll], willing⟩
  | cons r order ih =>
    obtain ⟨here, others⟩ := List.forall_mem_cons.mp sound
    obtain ⟨nameable, names⟩ := List.forall_mem_cons.mp named
    obtain ⟨apart, distinct⟩ := List.nodup_cons.mp distinct
    obtain ⟨new, news⟩ := List.forall_mem_cons.mp fresh
    obtain ⟨passed, later, grown⟩ := pass_of_willing cipher here nameable willing new
    have behind : ∀ s ∈ order,
        s.path ∉ ((Step.pass cipher r).run.perform w).2.output.names := by
      intro s listed member
      rw [grown] at member
      rcases List.mem_append.mp member with before | last
      · exact news s listed before
      · have same : s.path = r.path := List.mem_singleton.mp last
        exact apart (same ▸ List.mem_map_of_mem listed)
    have rest := ih others names distinct later behind
    rw [List.map_cons, outcomes_cons, runAll_cons]
    exact ⟨List.forall_mem_cons.mpr ⟨passed, rest.1⟩, rest.2⟩

/-- A pass over a container of whole members with different names succeeds on a device that refuses
nothing, if the manifest can point to all that is to be encrypted. -/
theorem passes_of_whole (whole : ∀ m ∈ p.archive, m.IsWhole)
    (distinct : (p.resources.map Resource.path).Nodup) (named : ∀ r ∈ p.resources, Nameable r)
    (takes : device.refused = none) (flushes : device.refusesFlush = false) :
    (p.destination device).Passes cipher p.resources := by
  have willing := p.destination_willing takes flushes
  have slots : (p.destination device).output.settle.slots = [declaration].map .member :=
    Output.slots_settle_opened _ _
  have fresh : ∀ r ∈ p.resources, r.path ∉ (p.destination device).output.names := by
    intro r listed
    rw [Output.names_of_slots slots]
    exact fresh_of_isPart (part_of_mem listed).1
  obtain ⟨reported, later⟩ :=
    pass_run_of_willing cipher (sound_of_mem whole) named distinct willing fresh
  refine ⟨reported, ?_⟩
  rcases passes_ok p.resources slots reported with doomed | ⟨parts, passed⟩
  · exact absurd doomed later.not_doomed
  apply Writer.close_of_willing later passed.slots
  intro d given
  rw [location_of_document? given]
  apply location_not_mem
  apply (part_of_names (p := p) _).1
  intro m listed
  rw [← passed.names]
  exact List.mem_map_of_mem listed

end

/-- An encryption pass is idempotent. Where it succeeds and its destination is closed, this is a
container with the paths of its source, and what may be encrypted is encrypted in it. Another pass
over it, by any cipher, only copies. On a device that refuses nothing that pass succeeds, and
wherever it does it leaves the archive that was there. -/
theorem pass_idempotent {archive : Archive} {settings : Settings} {p : Package} {device : Device}
    {w : Writer Ledger} {cipher : Cipher} (later : Settings)
    (opened : ofArchive archive settings = .ok p) (started : p.newWriter device = .ok w)
    (passes : w.Passes cipher p.resources) :
    ∃ copy p', (Writer.close (w.behindPass cipher p.resources)).archive = some copy ∧
      ofArchive copy later = .ok p' ∧
      p'.resources.map Resource.path = p.resources.map Resource.path ∧
      (∀ r ∈ p'.resources, r.canEncrypt = true → r.isEncrypted = true) ∧
      ∀ again : Cipher, p'.resources.map (Step.pass again) = p'.resources.map .copy ∧
        (∀ target : Device, target.refused = none → target.refusesFlush = false →
          ∃ v, p'.newWriter target = .ok v ∧ v.Passes again p'.resources) ∧
        ∀ (target : Device) (v : Writer Ledger), p'.newWriter target = .ok v →
          v.Passes again p'.resources →
          (Writer.close (v.behindPass again p'.resources)).archive = some copy := by
  obtain ⟨p', left, reopens, made, whole, paths⟩ := passed_container later opened started passes
  refine ⟨p'.archive, p', left, reopens, paths, whole, ?_⟩
  intro again
  refine ⟨whole.pass_eq again, ?_, ?_⟩
  · intro target takes flushes
    exact ⟨p'.destination target, newWriter_of_taken p' takes,
      whole.passes_iff.mpr (made.copiesAll takes flushes)⟩
  · intro target v starts passes
    have copied := made.copied starts (whole.passes_iff.mp passes)
    unfold behindPass
    rw [whole.pass_eq again]
    exact copied

def turning : Cipher := { encrypt := List.reverse, profile := "basic", algorithm := "turning" }

theorem passes_book : bookWriter.Passes turning book.resources := by
  have listed : ∀ r ∈ book.resources,
      r.path ∈ ["META-INF/container.xml", "a.xhtml", "b.xhtml"] := by
    rw [← paths_book]
    exact fun r among => List.mem_map_of_mem among
  have named : ∀ path ∈ ["META-INF/container.xml", "a.xhtml", "b.xhtml"],
      UriPath.escaped? path = some path ∧ path ≠ "" := by decide
  have passes : (book.destination {}).Passes turning book.resources := by
    apply passes_of_whole whole_book
    · rw [paths_book]
      decide
    · exact fun r among _ _ => ⟨r.path, named r.path (listed r among)⟩
    · rfl
    · rfl
  exact passes

/-- One page of the book is encrypted and the other one is not. A pass encrypts this one, and the
next pass leaves all as it is. -/
theorem pass_idempotent_book :
    ofArchive book.archive {} = .ok book ∧ book.newWriter {} = .ok bookWriter ∧
      bookWriter.Passes turning book.resources ∧
      ∃ copy p', (Writer.close (bookWriter.behindPass turning book.resources)).archive = some copy ∧
        ofArchive copy {} = .ok p' ∧
        p'.resources.map Resource.path = ["META-INF/container.xml", "a.xhtml", "b.xhtml"] ∧
        (∀ r ∈ p'.resources, r.canEncrypt = true → r.isEncrypted = true) ∧
        ∃ v, p'.newWriter {} = .ok v ∧ v.Passes turning p'.resources ∧
          (Writer.close (v.behindPass turning p'.resources)).archive = some copy := by
  obtain ⟨copy, p', left, reopens, paths, whole, again⟩ :=
    pass_idempotent {} opened_book started_book passes_book
  obtain ⟨v, starts, passes⟩ := (again turning).2.1 {} rfl rfl
  exact ⟨opened_book, started_book, passes_book, copy, p', left, reopens, paths.trans paths_book,
    whole, v, starts, passes, (again turning).2.2 {} v starts passes⟩

end Package

end Epub
end Bindery
