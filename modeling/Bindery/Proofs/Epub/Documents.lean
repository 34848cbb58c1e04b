import Bindery.Proofs.Epub.Pass

/-! Package documents in encryption passes. Whether an entry is a document of the publication is
told from its extension in either case, and whether it may be encrypted from the extension as it is
written. So a document whose extension has an upper-case letter in it is encrypted like any page,
and no other document is. -/
namespace Bindery.Epub

open Zip (Archive Member)
open Package (mayEncrypt)

/-! ## Documents by their names -/

def documentTypes : List String := ["application/oebps-package+xml", "application/x-dtbncx+xml"]

def documentExtensions : List (List Char) := ["opf".toList, "ncx".toList]

def writtenExtension (name : String) : List Char :=
  (name.toList.reverse.takeWhile (· ≠ '.')).reverse

/-- Neither the place of a name nor the extension that is written in it keeps a document plain. -/
def IsOverlooked (name : String) : Prop :=
  ¬ "META-INF/".toList <+: name.toList ∧ ∃ c ∈ writtenExtension name, c.isUpper = true

instance (name : String) : Decidable (IsOverlooked name) :=
  inferInstanceAs (Decidable (¬ "META-INF/".toList <+: name.toList ∧
    ∃ c ∈ writtenExtension name, c.isUpper = true))

section
variable {name : String}

theorem writtenExtension_of_parts {stem extension : List Char}
    (parts : name.toList = stem ++ '.' :: extension) (last : '.' ∉ extension) :
    writtenExtension name = extension := by
  have plain : ∀ c ∈ extension.reverse, decide (c ≠ '.') = true := by
    intro c member
    rw [List.mem_reverse] at member
    exact decide_eq_true fun point => last (point ▸ member)
  have reversed : name.toList.reverse = extension.reverse ++ '.' :: stem.reverse := by
    simp [parts]
  rw [writtenExtension, reversed, List.takeWhile_append_of_pos plain,
    List.takeWhile_cons_of_neg (by decide), List.append_nil, List.reverse_reverse]

theorem exists_stem (pointed : '.' ∈ name.toList) :
    ∃ stem, name.toList = stem ++ '.' :: writtenExtension name := by
  obtain ⟨extension, stem, reversed, last⟩ :=
    List.eq_append_cons_of_mem (List.mem_reverse.mpr pointed)
  have parts : name.toList = stem.reverse ++ '.' :: extension.reverse := by
    rw [← List.reverse_reverse name.toList, reversed]
    simp
  rw [writtenExtension_of_parts parts (mt List.mem_reverse.mp last)]
  exact ⟨stem.reverse, parts⟩

/-- A name ends with a point and an extension if and only if this is its extension. -/
theorem suffix_iff {extension : List Char} (plain : '.' ∉ extension) :
    '.' :: extension <:+ name.toList ↔
      '.' ∈ name.toList ∧ writtenExtension name = extension := by
  constructor
  · rintro ⟨stem, parts⟩
    refine ⟨?_, writtenExtension_of_parts parts.symm plain⟩
    rw [← parts]
    exact List.mem_append_right stem List.mem_cons_self
  · rintro ⟨pointed, rfl⟩
    obtain ⟨stem, parts⟩ := exists_stem pointed
    exact ⟨stem, parts.symm⟩

theorem guess_mem_documentTypes_iff : MediaType.guess name ∈ documentTypes ↔
    '.' ∈ name.toList ∧ (writtenExtension name).map Char.toLower ∈ documentExtensions := by
  have guessed : MediaType.guess name ∈ documentTypes ↔
      MediaType.extension name = "opf" ∨ MediaType.extension name = "ncx" := by
    unfold MediaType.guess
    split <;> simp_all [documentTypes]
  rw [guessed, MediaType.extension]
  by_cases pointed : '.' ∈ name.toList
  · have whole : name.toList.contains '.' = true := List.contains_iff_mem.mpr pointed
    rw [if_pos whole, ← String.toList_inj, ← String.toList_inj]
    simp [MediaType.extension.spellLower, writtenExtension, documentExtensions, pointed]
  · simp [pointed]

theorem mayEncrypt_iff : mayEncrypt name = true ↔ ¬ "META-INF/".toList <+: name.toList ∧
    ¬ ('.' ∈ name.toList ∧ writtenExtension name ∈ documentExtensions) := by
  have opf : ".opf".toList <:+ name.toList ↔
      '.' ∈ name.toList ∧ writtenExtension name = "opf".toList := suffix_iff (by decide)
  have ncx : ".ncx".toList <:+ name.toList ↔
      '.' ∈ name.toList ∧ writtenExtension name = "ncx".toList := suffix_iff (by decide)
  simp only [mayEncrypt, documentExtensions, Bool.not_eq_true', ← Bool.not_eq_true, Bool.or_eq_true,
    List.isPrefixOf_iff_prefix, List.isSuffixOf_iff_suffix, opf, ncx, List.mem_cons,
    List.not_mem_nil, or_false, not_or, and_assoc, and_or_left]

theorem toLower_eq_self_iff (c : Char) : c.toLower = c ↔ ¬ c.isUpper = true := by
  by_cases upper : c.isUpper = true
  · refine iff_of_false ?_ (not_not_intro upper)
    intro same
    have shifted : c.toLower.val = c.val + ('a'.val - 'A'.val) :=
      congrArg Char.val (dif_pos (of_decide_eq_true upper))
    rw [same] at shifted
    have shift := UInt32.add_eq_left.mp shifted.symm
    exact absurd shift (by decide)
  · refine iff_of_true ?_ upper
    exact dif_neg (of_decide_eq_false ((Bool.not_eq_true _).mp upper))

theorem map_toLower_eq_self_iff {cs : List Char} :
    cs.map Char.toLower = cs ↔ ¬ ∃ c ∈ cs, c.isUpper = true := by
  induction cs with
  | nil => simp
  | cons c cs ih =>
    rw [List.map_cons, List.cons.injEq, toLower_eq_self_iff, ih, ← not_or]
    simp only [List.mem_cons, or_and_right, exists_or, exists_eq_left]

theorem mayEncrypt_document_iff (document : MediaType.guess name ∈ documentTypes) :
    mayEncrypt name = true ↔ IsOverlooked name := by
  obtain ⟨pointed, listed⟩ := guess_mem_documentTypes_iff.mp document
  have written : writtenExtension name ∈ documentExtensions ↔
      ¬ ∃ c ∈ writtenExtension name, c.isUpper = true := by
    rw [← map_toLower_eq_self_iff]
    constructor
    · intro here
      have lower : ∀ extension ∈ documentExtensions,
        extension.map Char.toLower = extension := by decide
      exact lower _ here
    · intro same
      rwa [same] at listed
  rw [mayEncrypt_iff, IsOverlooked, written]
  simp only [pointed, true_and, Decidable.not_not]

end

/-! ## What a pass makes of a resource -/

def passContent (cipher : Cipher) (r : Resource) (content : Bytes) : Bytes :=
  if r.isEncrypted || !r.canEncrypt then content else cipher.encrypt content

structure MadeOf (cipher : Cipher) (r : Resource) (m : Member) : Prop where
  name : m.name = r.path
  content : ∃ content, r.content = .ok content ∧ m.content = .ok (passContent cipher r content)

section
variable {w : Writer Ledger} {archive : Archive} {cipher : Cipher} {r : Resource}

/-- A step of a pass that succeeds has written one entry, with at most a mark behind it. -/
theorem pass_entered (reported : ((Step.pass cipher r).run.perform w).1 = .ok ()) :
    ∃ content method v, r.content = .ok content ∧
      Writer.Entered w r.path r.type method (passContent cipher r content) (.ok ()) v ∧
      Writer.Noted v ((Step.pass cipher r).run.perform w).2 := by
  unfold Step.pass at reported ⊢
  unfold passContent
  by_cases plain : (r.isEncrypted || !r.canEncrypt) = true
  · rw [if_pos plain] at reported ⊢
    obtain ⟨outcome, entered, honest⟩ := Writer.enters_copy w r
    obtain rfl := honest reported
    have read : r.content = .ok (Writer.copied r) := Writer.content_of_copyTo reported
    refine ⟨Writer.copied r, r.method, _, read, ?_, .same⟩
    rw [if_pos plain]
    exact entered
  · rw [if_neg plain] at reported ⊢
    rcases Writer.encrypt_cases w cipher r with ⟨e, _, performed⟩ |
      ⟨content, read, outcome, v, entered, performed⟩
    · rw [performed] at reported
      cases reported
    rw [performed] at reported ⊢
    cases outcome with
    | error e => cases reported
    | ok =>
      refine ⟨content, .stored, v, read, ?_, .mark _⟩
      rw [if_neg plain]
      exact entered

theorem pass_made (slots : w.output.settle.slots = archive.map .member)
    (reported : ((Step.pass cipher r).run.perform w).1 = .ok ()) :
    ((Step.pass cipher r).run.perform w).2.Doomed ∨ ∃ m, MadeOf cipher r m ∧
      m.name ∉ archive.map Member.name ∧
      ((Step.pass cipher r).run.perform w).2.output.settle.slots =
        (archive ++ [m]).map .member := by
  obtain ⟨content, method, v, read, entered, noted⟩ := pass_entered reported
  rw [noted.output]
  rcases entered.ok slots with doomed | ⟨_, _, fresh, grown, _⟩
  · exact .inl (noted.doomed doomed)
  · exact .inr ⟨.ofContent r.path method (passContent cipher r content),
      ⟨rfl, content, read, Member.content_ofContent _ _ _⟩, fresh, grown⟩

theorem passes_made (order : List Resource) (slots : w.output.settle.slots = archive.map .member)
    (distinct : (archive.map Member.name).Nodup)
    (reported : ∀ outcome ∈ (Step.runAll (order.map (Step.pass cipher)) w).1, outcome = .ok ()) :
    (w.behindPass cipher order).Doomed ∨ ∃ held : Archive,
      (w.behindPass cipher order).output.settle.slots = held.map .member ∧
      (held.map Member.name).Nodup ∧ (∀ m ∈ archive, m ∈ held) ∧
      ∀ r ∈ order, ∃ m ∈ held, MadeOf cipher r m := by
  unfold Writer.behindPass
  induction order generalizing w archive with
  | nil => exact .inr ⟨archive, slots, distinct, fun _ here => here, by simp⟩
  | cons r order ih =>
    rw [List.map_cons, outcomes_cons, List.forall_mem_cons] at reported
    rw [List.map_cons, runAll_cons]
    rcases pass_made slots reported.1 with doomed | ⟨m, made, fresh, grown⟩
    · exact .inl (Writer.doomed_runAll _ doomed)
    rcases ih grown (Archive.nodup_behind fresh distinct) reported.2 with
      doomed | ⟨held, later, apart, kept, others⟩
    · exact .inl doomed
    right
    refine ⟨held, later, apart, fun m here => kept m (List.mem_append_left _ here), ?_⟩
    refine List.forall_mem_cons.mpr ⟨⟨m, kept m ?_, made⟩, others⟩
    exact List.mem_append_right _ List.mem_cons_self

end

namespace Package
variable {p : Package} {r : Resource}

theorem type_of_mem (listed : r ∈ p.resources) : r.type = MediaType.guess r.path := by
  obtain ⟨entry, _, rfl⟩ := List.mem_map.mp listed
  rfl

/-- A pass copies a document unless that is overlooked and has no record. -/
theorem spared_iff (listed : r ∈ p.resources)
    (document : MediaType.guess r.path ∈ documentTypes) :
    (r.isEncrypted || !r.canEncrypt) = true ↔
      ¬ (IsOverlooked r.path ∧ r.isEncrypted = false) := by
  rw [← mayEncrypt_document_iff document, ← canEncrypt_of_mem listed]
  cases r.isEncrypted with
  | true => simp
  | false => simp

/-- A document may be encrypted if and only if it is overlooked. A pass encrypts the overlooked ones
that have no record. Where it succeeds, these are in the archive as the cipher has made them, and
all other documents are there with their content as it was. -/
theorem document_encrypted_iff {name : String}
    (document : MediaType.guess name ∈ documentTypes) :
    (mayEncrypt name = true ↔ IsOverlooked name) ∧
    ∀ (p : Package) (cipher : Cipher),
      (∀ r ∈ p.resources, r.path = name → r.type ∈ documentTypes ∧
        (r.canEncrypt = true ↔ IsOverlooked name) ∧
        Step.pass cipher r =
          if IsOverlooked name ∧ r.isEncrypted = false then .encrypt cipher r else .copy r) ∧
      ∀ (device : Device) (w : Writer Ledger), p.newWriter device = .ok w →
        w.Passes cipher p.resources →
        ∃ left, (Writer.close (w.behindPass cipher p.resources)).archive = some left ∧
          ∀ r ∈ p.resources, r.path = name → ∃ content, r.content = .ok content ∧
            left.read name = .ok (if IsOverlooked name ∧ r.isEncrypted = false
              then cipher.encrypt content else content) := by
  refine ⟨mayEncrypt_document_iff document, fun p cipher => ⟨?_, ?_⟩⟩
  · rintro r listed rfl
    refine ⟨?_, ?_, ?_⟩
    · rw [type_of_mem listed]
      exact document
    · rw [canEncrypt_of_mem listed]
      exact mayEncrypt_document_iff document
    · simp only [Step.pass, spared_iff listed document, ite_not]
  · intro device w started passes
    obtain ⟨slots, _⟩ := newWriter_ok started
    have distinct : ([declaration].map Member.name).Nodup :=
      List.nodup_cons.mpr ⟨List.not_mem_nil, List.nodup_nil⟩
    rcases passes_made p.resources slots distinct passes.reported with
      doomed | ⟨held, later, apart, _, made⟩
    · exact absurd passes.closed (Writer.not_closed_of_doomed doomed)
    refine ⟨_, (Writer.archive_of_close later passes.closed).1, ?_⟩
    rintro r listed rfl
    obtain ⟨m, here, named, content, read, left⟩ := made r listed
    have file : Archive.isFile m = true :=
      (Archive.isFile_congr (named.trans rfl)).trans (part_of_mem listed).2.1
    refine ⟨content, read, ?_⟩
    rw [← named, Archive.read_front apart here file, left, passContent, named]
    simp only [spared_iff listed document, ite_not]

end Package

/-! ## A package document in capitals -/

def capitalDocument : Member := .ofContent "OEBPS/content.OPF" .stored [0x3c, 0x70, 0x3e]

def capitalBook : Package where
  archive := [Package.declaration] ++ [.ofContent containerLocation .stored [0x3c], capitalDocument]
  records := []
  settings := {}

theorem opened_capitalBook : Package.ofArchive capitalBook.archive {} = .ok capitalBook := by
  have named : ∀ m ∈ [.ofContent containerLocation .stored [0x3c], capitalDocument],
      isPart (Member.name m) = true := by
    have parts : isPart containerLocation = true ∧ isPart "OEBPS/content.OPF" = true := by decide
    exact List.forall_mem_cons.mpr ⟨parts.1, List.forall_mem_singleton.mpr parts.2⟩
  have contained : (capitalBook.archive.entry? containerLocation).isSome = true := by
    rw [Archive.isSome_entry?_iff]
    exact List.mem_map_of_mem (List.mem_filter.mpr ⟨List.mem_cons_of_mem _ List.mem_cons_self, rfl⟩)
  exact Package.ofArchive_ok_iff.mpr
    ⟨contained, Package.recordsIn_of_parts { records := [] } named, rfl, rfl⟩

theorem passes_capitalBook :
    (capitalBook.destination {}).Passes Package.turning capitalBook.resources := by
  have whole : ∀ m ∈ capitalBook.archive, m.IsWhole := by
    simp [capitalBook, capitalDocument, Package.declaration, Zip.isWhole_ofContent]
  apply Package.passes_of_whole whole
  · decide
  · have listed : ∀ r ∈ capitalBook.resources, r.canEncrypt = true →
        UriPath.escaped? r.path = some "OEBPS/content.OPF" := by
      decide
    intro r member may _
    exact ⟨_, listed r member may, by decide⟩
  · rfl
  · rfl

theorem content_capitalBook :
    (capitalBook.resourceOf (.of capitalDocument 2)).content = .ok [0x3c, 0x70, 0x3e] := by
  have arrived : capitalBook.archive.contentOf (.of capitalDocument 2) =
      .ok [0x3c, 0x70, 0x3e] := by
    have here : capitalBook.archive[2]? = some capitalDocument := rfl
    have whole : capitalDocument.content = .ok [0x3c, 0x70, 0x3e] :=
      Member.content_ofContent _ _ _
    rw [← whole]
    exact bind_of_eq_ok (Archive.memberOf_of here) _
  have opens : (capitalBook.resourceOf (.of capitalDocument 2)).source =
      .ok { rest := [0x3c, 0x70, 0x3e], declared := 3 } := by
    simp only [Package.resourceOf, arrived]
    rfl
  exact Writer.content_of_sound opens ⟨rfl, rfl⟩

theorem document_encrypted_iff_capitalBook :
    MediaType.guess "OEBPS/content.OPF" ∈ documentTypes ∧ IsOverlooked "OEBPS/content.OPF" ∧
      capitalBook.newWriter {} = .ok (capitalBook.destination {}) ∧
      (capitalBook.destination {}).Passes Package.turning capitalBook.resources ∧
      ∃ left, (Writer.close ((capitalBook.destination {}).behindPass Package.turning
        capitalBook.resources)).archive = some left ∧
        left.read "OEBPS/content.OPF" = .ok [0x3e, 0x70, 0x3c] := by
  have document : MediaType.guess "OEBPS/content.OPF" ∈ documentTypes := by decide
  obtain ⟨may, passes⟩ := Package.document_encrypted_iff document
  have overlooked : IsOverlooked "OEBPS/content.OPF" := may.mp (by decide)
  obtain ⟨left, closed, read⟩ :=
    (passes capitalBook Package.turning).2 {} _ rfl passes_capitalBook
  have listed : capitalBook.resourceOf (.of capitalDocument 2) ∈ capitalBook.resources :=
    List.mem_cons_of_mem _ List.mem_cons_self
  obtain ⟨content, held, left_of⟩ := read _ listed rfl
  obtain rfl : content = [0x3c, 0x70, 0x3e] := Except.ok.inj (held.symm.trans content_capitalBook)
  refine ⟨document, overlooked, rfl, passes_capitalBook, left, closed, left_of.trans ?_⟩
  exact congrArg Except.ok (if_pos ⟨overlooked, rfl⟩)

theorem capitalDocument_mayEncrypt :
    Package.ofArchive capitalBook.archive {} = .ok capitalBook ∧
      MediaType.guess "OEBPS/content.OPF" = "application/oebps-package+xml" ∧
      mayEncrypt "OEBPS/content.OPF" = true ∧
      ∃ r ∈ capitalBook.resources, r.path = "OEBPS/content.OPF" ∧
        r.type = "application/oebps-package+xml" ∧ r.canEncrypt = true ∧
        Step.pass Package.turning r = .encrypt Package.turning r := by
  have type : MediaType.guess "OEBPS/content.OPF" = "application/oebps-package+xml" := by decide
  have may : mayEncrypt "OEBPS/content.OPF" = true := by decide
  have listed : capitalBook.resourceOf (.of capitalDocument 2) ∈ capitalBook.resources :=
    List.mem_cons_of_mem _ List.mem_cons_self
  exact ⟨opened_capitalBook, type, may, _, listed, rfl, type, may, rfl⟩

end Bindery.Epub
