import Bindery.Proofs.ReadingOrder.Copies
import Mathlib.Data.List.Nodup

/-! Copies of packages in which nothing is protected. Where all resources are copied in sequence,
the copy holds the same publication and the same files. -/
namespace Bindery

/-- The link, in which properties that hold nothing count as none. -/
def Link.withoutEmpty (link : Link) : Link :=
  match link.properties with
  | some { protection := none, extra := [] } => { link with properties := none }
  | _ => link

theorem Link.carriedOver_self {link : Link} (plain : link.isProtected = false) :
    link.carriedOver link.type = link.withoutEmpty := by
  obtain ⟨href, type, properties, extra⟩ := link
  cases properties with
  | none => rfl
  | some p =>
    obtain ⟨protection, others⟩ := p
    cases protection with
    | some p => cases plain
    | none =>
      cases others with
      | nil => rfl
      | cons member others => rfl

theorem Publication.Sound.withoutEmpty {p : Publication} (sound : p.Sound)
    (plain : ∀ link ∈ p.readingOrder, link.isProtected = false) :
    Publication.Sound { p with readingOrder := p.readingOrder.map Link.withoutEmpty } := by
  refine sound.withReadingOrder (List.forall_mem_map.mpr fun link listed => ?_)
  rw [← Link.carriedOver_self (plain link listed)]
  exact (sound.readingOrder link listed).carriedOver link.type

namespace ReadingOrder

open Zip (Archive Entry Member)

/-! ## Links that are committed again -/

namespace Ledger

/-- Where no two links lead to the same entry, the one that is made for an entry is made of its
own link. -/
theorem linkFor_of_mem {p : Publication} (distinct : (p.readingOrder.map Link.href).Nodup)
    {link : Link} (listed : link ∈ p.readingOrder) {draft : Draft}
    (label : Writer.labelOf draft = (link.href, link.type)) :
    (ofPublication p).linkFor draft = link.carriedOver link.type := by
  obtain ⟨path, type⟩ := Prod.ext_iff.mp label
  obtain ⟨found, seen⟩ : ∃ found, p.readingOrder.find? (·.href = draft.path) = some found := by
    refine Option.isSome_iff_exists.mp (List.find?_isSome.mpr ⟨link, listed, ?_⟩)
    exact decide_eq_true path.symm
  have same : found.href = draft.path := by simpa using List.find?_some seen
  have one : found = link :=
    List.inj_on_of_nodup_map distinct (List.mem_of_find?_eq_some seen) listed (same.trans path)
  unfold linkFor ofPublication
  rw [seen]
  exact congr (congrArg Link.carriedOver one) type

theorem links_committed {p : Publication} (distinct : (p.readingOrder.map Link.href).Nodup)
    {drafts : List Draft}
    (labels : drafts.map Writer.labelOf = p.readingOrder.map fun link => (link.href, link.type)) :
    drafts.map (ofPublication p).linkFor =
      p.readingOrder.map fun link => link.carriedOver link.type := by
  let made (label : String × String) : Link :=
    (ofPublication p).linkFor { path := label.1, type := label.2, method := .stored }
  calc drafts.map (ofPublication p).linkFor
      = (drafts.map Writer.labelOf).map made := by
        rw [List.map_map]
        rfl
    _ = p.readingOrder.map fun link => made (link.href, link.type) := by
        rw [labels, List.map_map]
        rfl
    _ = p.readingOrder.map fun link => link.carriedOver link.type :=
        List.map_congr_left fun link listed => linkFor_of_mem distinct listed rfl

/-- Where all that is committed was linked without protection, the publication is the one that it
was, but for properties that hold nothing. -/
theorem publication_committed_plain {p : Publication}
    (distinct : (p.readingOrder.map Link.href).Nodup)
    (plain : ∀ link ∈ p.readingOrder, link.isProtected = false) {drafts : List Draft}
    (labels : drafts.map Writer.labelOf = p.readingOrder.map fun link => (link.href, link.type)) :
    (Writer.committed drafts (ofPublication p)).publication =
      { p with readingOrder := p.readingOrder.map Link.withoutEmpty } := by
  have links : drafts.map (ofPublication p).linkFor = p.readingOrder.map Link.withoutEmpty := by
    rw [links_committed distinct labels]
    exact List.map_congr_left fun link listed => Link.carriedOver_self (plain link listed)
  rw [publication_committed, links]
  rfl

end Ledger

/-! ## Files that are taken over -/

namespace Package

variable {p : Package}

theorem href_mem_carried {link : Link} (listed : link ∈ p.publication.resources) :
    link.href ∈ p.carried := by
  unfold carried
  exact List.mem_eraseDups.mpr (List.mem_append_right _ (List.mem_map_of_mem listed))

theorem sameFile_of_takenOver {names : List String} {present copy : Archive}
    (taken : names.mapM p.takenOver = .ok present) (kept : present ⊆ copy)
    (distinct : (copy.map Member.name).Nodup) {name : String} (listed : name ∈ names) :
    p.archive.SameFile copy name := by
  obtain ⟨m, member, here⟩ := mem_made_of_mapM taken listed
  obtain ⟨named, entry, source, found, held, unencrypted⟩ := takenOver_ok here
  obtain ⟨_, same, _, _, method⟩ := Archive.member_of_entry? found
  cases held.symm.trans same
  refine Archive.sameFile_of_mem found held ?_ ?_ distinct (kept member) named
  · rw [unencrypted, method]
  · exact fun _ ran => unencrypted ▸ Member.content_unencrypted ran

/-! ## Files that are copied -/

theorem read_of_opens {link : Link} {source : Source}
    (opens : (p.resourceOf link).source = .ok source) :
    p.archive.read link.href = .ok source.rest ∧ ∃ entry,
      p.archive.entry? link.href = some entry ∧ p.archive.contentOf entry = .ok source.rest ∧
      (p.resourceOf link).method = entry.method := by
  obtain ⟨entry, found, opens⟩ := ok_of_bind opens
  obtain ⟨bytes, content, same⟩ := ok_of_bind opens
  cases same
  have there := Archive.entry_eq_ok_iff.mp found
  refine ⟨?_, entry, there, content, ?_⟩
  · unfold Archive.read
    rw [bind_of_eq_ok found, content]
  · simp only [resourceOf, there, Option.map_some, Option.getD_some]

theorem sameFile_of_copyOf {link : Link} {source : Source} {copy : Archive}
    (opens : (p.resourceOf link).source = .ok source)
    (kept : Writer.copyOf (p.resourceOf link) ∈ copy)
    (distinct : (copy.map Member.name).Nodup) : p.archive.SameFile copy link.href := by
  obtain ⟨_, entry, found, content, method⟩ := read_of_opens opens
  obtain ⟨m, held, content⟩ := ok_of_bind content
  have moved : Writer.copied (p.resourceOf link) = source.rest := by
    unfold Writer.copied
    rw [opens]
  refine Archive.sameFile_of_mem found held ?_ (fun bytes ran => ?_) distinct kept rfl
  · exact method
  · cases content.symm.trans ran
    rw [← moved]
    exact Member.content_ofContent _ _ _

theorem sameFile_of_copies {present copy : Archive}
    (taken : p.carried.mapM p.takenOver = .ok present)
    (opens : ∀ r ∈ p.resources, ∃ source, r.source = .ok source)
    (kept : present ++ p.resources.map Writer.copyOf ⊆ copy)
    (distinct : (copy.map Member.name).Nodup) {link : Link}
    (listed : link ∈ p.publication.readingOrder ++ p.publication.resources) :
    p.archive.SameFile copy link.href := by
  rcases List.mem_append.mp listed with sequence | ancillary
  · have among : p.resourceOf link ∈ p.resources := List.mem_map_of_mem sequence
    obtain ⟨source, found⟩ := opens _ among
    have member := kept (List.mem_append_right _ (List.mem_map_of_mem among))
    exact sameFile_of_copyOf found member distinct
  · have members : present ⊆ copy := fun _ held => kept (List.mem_append_left _ held)
    exact sameFile_of_takenOver taken members distinct (href_mem_carried ancillary)

/-! ## Packages that are copied -/

/-- A copy with the publication of its source, but for properties that hold nothing. It holds what
each destination takes over, the files of the reading order and the manifest, and nothing else. -/
structure IsCopyOf (copied p : Package) : Prop where
  publication : copied.publication =
    { p.publication with readingOrder := p.publication.readingOrder.map Link.withoutEmpty }
  files : ∀ link ∈ p.publication.readingOrder ++ p.publication.resources,
    p.archive.SameFile copied.archive link.href
  opens : ∀ link ∈ p.publication.readingOrder, ∃ bytes, p.archive.read link.href = .ok bytes
  names : copied.archive.map Member.name =
    p.carried ++ p.publication.readingOrder.map Link.href ++ [manifestLocation]

theorem names_copies (p : Package) :
    (p.resources.map Writer.copyOf).map Member.name = p.publication.readingOrder.map Link.href := by
  rw [resources, List.map_map, List.map_map]
  rfl

theorem labels_resources (p : Package) : (p.resources.map fun r => (r.path, r.type)) =
    p.publication.readingOrder.map fun link => (link.href, link.type) := by
  rw [resources, List.map_map]
  rfl

/-- A package without protections whose numbers are 64-bit integers is reproduced by copies of all
its resources in sequence. -/
theorem copies_reproduce {archive : Archive} {settings : Settings} {p : Package}
    {device : Device} {w : Writer Ledger} (later : Settings)
    (opened : ofArchive archive settings = .ok p)
    (plain : ∀ link ∈ p.publication.readingOrder, link.isProtected = false)
    (whole : p.publication.IsWhole) (started : p.newWriter device = .ok w)
    (all : w.CopiesAll p.resources p.resources) :
    ∃ copied, (Writer.close (w.behindCopies p.resources)).archive = some copied.archive ∧
      ofArchive copied.archive later = .ok copied ∧ copied.IsCopyOf p := by
  obtain ⟨_, _, _, _, read, _, _⟩ := ofArchive_ok_iff.mp opened
  obtain ⟨normal, fits⟩ := Publication.of_readBytes read
  obtain ⟨present, drafts, taken, labels, left, distinct, elsewhere⟩ :=
    archive_of_copies started all
  have opens := Writer.opens_of_copies all.reported
  let ledger := Writer.committed drafts (Ledger.ofPublication p.publication)
  let before := present ++ p.resources.map Writer.copyOf
  have names : before.map Member.name =
      p.carried ++ p.publication.readingOrder.map Link.href := by
    rw [List.map_append, names_of_takenOver taken, names_copies]
  have apart : ((before ++ [ledger.document.member]).map Member.name).Nodup :=
    Archive.nodup_behind elsewhere distinct
  have hrefs := (List.nodup_append.mp (names ▸ distinct)).2.1
  have same : ledger.publication =
      { p.publication with readingOrder := p.publication.readingOrder.map Link.withoutEmpty } :=
    Ledger.publication_committed_plain hrefs plain (labels.trans p.labels_resources)
  have sound : ledger.publication.Sound :=
    same ▸ Publication.Sound.withoutEmpty ⟨normal, fits, whole⟩ plain
  have writable : ledger.Writable := (Ledger.writable_ofPublication normal fits).committed drafts
  have again := Publication.reread?_of_isWhole sound.normal sound.whole
  refine ⟨{ archive := _, publication := ledger.publication, settings := later }, left,
    (ofArchive_behind_iff writable elsewhere).mpr ⟨again, rfl, rfl⟩, same, ?_, ?_, ?_⟩
  · exact fun link listed =>
      sameFile_of_copies taken opens (List.subset_append_left _ _) apart listed
  · intro link listed
    obtain ⟨source, found⟩ := opens _ (List.mem_map_of_mem listed)
    exact ⟨source.rest, (read_of_opens found).1⟩
  · rw [List.map_append, names]
    rfl

end Package

/-! ## A page with a sheet -/

/-- A publication of one page, whose properties hold nothing, and its style sheet. -/
def plainPublication : Publication where
  readingOrder := [{
    href := "a.html"
    type := "text/html"
    properties := some {}
    extra := [("rel", .string "cover")] }]
  resources := [{ href := "a.css", type := "text/css" }]

def plainLedger : Ledger := { publication := plainPublication, sourceLinks := [] }

def plainCarried : Archive :=
  [.ofContent "publication.json" .deflated [0x7b, 0x7d], .ofContent "a.css" .deflated [0x2a]]

def plainPackage : Package where
  archive := .ofContent "a.html" .stored [0x6f, 0x6b] :: plainCarried ++
    [plainLedger.document.member]
  publication := plainPublication
  settings := {}

def plainWriter : Writer Ledger := writerBehind plainCarried {} plainPublication {}

theorem opened_plain : Package.ofArchive plainPackage.archive {} = .ok plainPackage := by
  have read : Publication.ofValue plainPublication.toValue = .ok plainPublication := rfl
  have writable : plainLedger.Writable := {
    normal := Publication.normal_of_ofValue read
    fits := Publication.within_of_ofValue read (by decide) (by decide)
    normalSources := by simp [plainLedger]
    fitSources := by simp [plainLedger] }
  have elsewhere : manifestLocation ∉
      (.ofContent "a.html" .stored [0x6f, 0x6b] :: plainCarried : Archive).map Member.name := by
    decide
  exact (Package.ofArchive_behind_iff writable elsewhere).mpr ⟨rfl, rfl, rfl⟩

theorem started_plain : plainPackage.newWriter {} = .ok plainWriter := rfl

theorem isWhole_plain : plainPublication.IsWhole where
  context := by simp [plainPublication]
  metadata := trivial
  readingOrder := List.forall_mem_singleton.mpr ⟨trivial, trivial, trivial, trivial, trivial⟩
  resources := List.forall_mem_singleton.mpr ⟨trivial, trivial, trivial⟩
  extra := trivial

theorem copiesAll_plain : plainWriter.CopiesAll plainPackage.resources plainPackage.resources := by
  have whole : ∀ m ∈ plainPackage.archive, m.IsWhole := by
    simp [plainPackage, plainCarried, LedgerDocument.member, Zip.isWhole_ofContent]
  have present : ∀ link ∈ plainPackage.publication.readingOrder,
      (plainPackage.archive.entry? link.href).isSome = true :=
    List.forall_mem_singleton.mpr rfl
  have sound := Package.sound_of_mem whole present
  have willing : plainWriter.Willing := ⟨rfl, rfl, rfl⟩
  have paths : plainPackage.resources.map Resource.path = ["a.html"] := rfl
  have slots : plainWriter.output.settle.slots = plainCarried.map .member := rfl
  have fresh : "a.html" ∉ plainCarried.map Member.name := by decide
  refine Writer.copiesAll_of_willing (List.Perm.refl _) sound ?_ willing slots ?_ ?_
  · rw [paths]
    simp
  · exact List.forall_mem_singleton.mpr fresh
  · intro drafts d given
    cases given
    change manifestLocation ∉ ["publication.json", "a.css", "a.html"]
    decide

theorem copies_reproduce_plain :
    Package.ofArchive plainPackage.archive {} = .ok plainPackage ∧
      (∀ link ∈ plainPackage.publication.readingOrder, link.isProtected = false) ∧
      plainPackage.publication.IsWhole ∧ plainPackage.newWriter {} = .ok plainWriter ∧
      plainWriter.CopiesAll plainPackage.resources plainPackage.resources ∧
      ∃ copied, (Writer.close (plainWriter.behindCopies plainPackage.resources)).archive =
          some copied.archive ∧
        Package.ofArchive copied.archive {} = .ok copied ∧ copied.IsCopyOf plainPackage ∧
        copied.archive.map Member.name =
          ["publication.json", "a.css", "a.html", "manifest.json"] := by
  have plain : ∀ link ∈ plainPackage.publication.readingOrder, link.isProtected = false :=
    List.forall_mem_singleton.mpr rfl
  obtain ⟨copied, left, reopened, same⟩ := Package.copies_reproduce {} opened_plain plain
    isWhole_plain started_plain copiesAll_plain
  exact ⟨opened_plain, plain, isWhole_plain, started_plain, copiesAll_plain, copied, left, reopened,
    same, same.names⟩

end ReadingOrder
end Bindery
