import Bindery.Container
import Bindery.Proofs.Publication.Refusal
import Bindery.Proofs.Zip.Index

/-! What an archive is opened as. The index that a pass over an archive makes agrees with it, and so
the marker that tells the kind of a container is found again when the container is opened: nothing
that opening needs can turn out to be missing. -/
namespace Bindery

open Encryption (FormatOnly formatOnly_ok formatOnly_fault formatOnly_bind formatOnly_ite)
open Zip (Archive Entry Index Member Output)

/-! ## Failures on opening -/

/-- A failure, if there is one, does not say that something asked for does not exist. -/
def Unmissed {α : Type} (result : Result α) : Prop := ∀ what, result ≠ .error (.missing what)

theorem unmissed_ok {α : Type} (a : α) : Unmissed (.ok a) := fun _ => nofun

theorem unmissed_fault {α : Type} (fault : StreamFault) :
    Unmissed (.error (.stream fault) : Result α) := fun _ => nofun

theorem unmissed_of_formatOnly {α : Type} {result : Result α} (only : FormatOnly result) :
    Unmissed result := by
  intro what failed
  obtain ⟨fault, same⟩ := only _ failed
  cases same

theorem unmissed_bind {α β : Type} {first : Result α} {next : α → Result β}
    (before : Unmissed first) (behind : ∀ a, Unmissed (next a)) : Unmissed (first >>= next) := by
  cases first with
  | error e => exact fun what failed => before what (by cases failed; rfl)
  | ok a => exact behind a

theorem unmissed_map {α β : Type} {first : Result α} (before : Unmissed first) (change : α → β) :
    Unmissed (change <$> first) := by
  cases first with
  | error e => exact fun what failed => before what (by cases failed; rfl)
  | ok a => exact unmissed_ok _

theorem unmissed_unsound {α : Type} (reason : String) :
    Unmissed (Zip.unsound reason : Result α) := fun _ => nofun

theorem unmissed_content (m : Member) : Unmissed m.content := by
  refine unmissed_bind ?_ fun content => ?_
  · unfold Member.unpacked
    split
    · exact unmissed_unsound _
    · split
      · exact unmissed_unsound _
      · exact unmissed_ok _
      · split
        · exact unmissed_ok _
        · exact unmissed_fault _
  · split
    · exact unmissed_ok _
    · exact unmissed_fault _

theorem unmissed_contentOf (archive : Archive) (entry : Entry) :
    Unmissed (archive.contentOf entry) := by
  refine unmissed_bind ?_ unmissed_content
  unfold Archive.memberOf
  split
  · exact unmissed_ok _
  · exact unmissed_unsound _

theorem formatOnly_readDocument (bytes : Bytes) :
    FormatOnly (Encryption.Manifest.readDocument bytes) := by
  refine formatOnly_bind (formatOnly_bind ?_ fun found => ?_) Encryption.formatOnly_read
  · unfold Charset.resolve
    split
    · exact formatOnly_ok _
    · split
      · exact formatOnly_ok _
      · split
        · exact formatOnly_ok _
        · exact formatOnly_fault _
  · dsimp only
    split
    · exact formatOnly_ok _
    · exact formatOnly_fault _

/-- A package whose manifest is a file of the archive lacks nothing. -/
theorem ReadingOrder.Package.unmissed_ofArchive {archive : Archive} (settings : Settings)
    (present : (archive.entry? manifestLocation).isSome = true) :
    Unmissed (ofArchive archive settings) := by
  unfold ofArchive
  cases found : archive.entry? manifestLocation with
  | none =>
    rw [found] at present
    cases present
  | some entry =>
    refine unmissed_bind (unmissed_contentOf archive entry) fun bytes => ?_
    exact unmissed_bind (unmissed_of_formatOnly (Publication.formatOnly_readBytes bytes))
      fun _ => unmissed_ok _

theorem Epub.Package.unmissed_ofArchive {archive : Archive} (settings : Settings)
    (present : (archive.entry? containerLocation).isSome = true) :
    Unmissed (ofArchive archive settings) := by
  unfold ofArchive
  rw [if_neg (by simp [Option.isSome_iff_ne_none.mp present])]
  cases archive.entry? Encryption.location with
  | none => exact unmissed_ok _
  | some entry =>
    refine unmissed_bind (unmissed_contentOf archive entry) fun bytes => ?_
    exact unmissed_bind (unmissed_of_formatOnly (formatOnly_readDocument bytes))
      fun _ => unmissed_ok _

/-! ## Markers -/

namespace Container

def Holds (archive : Archive) (name : String) : Prop := ∃ m ∈ archive, m.name = name

theorem isSome_member?_iff (archive : Archive) (name : String) :
    (archive.member? name).isSome = true ↔ Holds archive name := by
  rw [Archive.member?, List.find?_isSome]
  simp only [decide_eq_true_eq, Holds]

theorem isSome_entry?_of_holds {archive : Archive} {name : String}
    (file : Archive.isFile (.ofContent name .stored []) = true) (held : Holds archive name) :
    (archive.entry? name).isSome = true := by
  obtain ⟨m, member, named⟩ := held
  refine (Archive.isSome_entry?_iff archive name).mpr (List.mem_map.mpr ⟨m, ?_, named⟩)
  exact List.mem_filter.mpr ⟨member, Archive.isFile_of_name name named file⟩

end Container

namespace Container

/-- What an archive is opened as is told by its markers, and then opening it as that decides. -/
structure ToldByMarkers (archive : Archive) (settings : Settings) : Prop where
  readingOrder : Holds archive ReadingOrder.manifestLocation →
    ofArchive archive settings =
      .readingOrder <$> ReadingOrder.Package.ofArchive archive settings
  epub : ¬ Holds archive ReadingOrder.manifestLocation → Holds archive Epub.containerLocation →
    ofArchive archive settings = .epub <$> Epub.Package.ofArchive archive settings
  neither : ¬ Holds archive ReadingOrder.manifestLocation →
    ¬ Holds archive Epub.containerLocation →
    ofArchive archive settings =
      .error (.format (.unknownContainer ReadingOrder.manifestLocation Epub.containerLocation))
  unmissed : Unmissed (ofArchive archive settings)

theorem told_by_markers (archive : Archive) (settings : Settings) :
    ToldByMarkers archive settings := by
  have isReadingOrder := isSome_member?_iff archive ReadingOrder.manifestLocation
  have isEpub := isSome_member?_iff archive Epub.containerLocation
  have readingOrder (held : Holds archive ReadingOrder.manifestLocation) :
      ofArchive archive settings =
        .readingOrder <$> ReadingOrder.Package.ofArchive archive settings := by
    rw [ofArchive, if_pos (isReadingOrder.mpr held)]
  have epub (other : ¬ Holds archive ReadingOrder.manifestLocation)
      (held : Holds archive Epub.containerLocation) :
      ofArchive archive settings = .epub <$> Epub.Package.ofArchive archive settings := by
    rw [ofArchive, if_neg (mt isReadingOrder.mp other), if_pos (isEpub.mpr held)]
  have neither (other : ¬ Holds archive ReadingOrder.manifestLocation)
      (another : ¬ Holds archive Epub.containerLocation) :
      ofArchive archive settings =
        .error (.format (.unknownContainer ReadingOrder.manifestLocation
          Epub.containerLocation)) := by
    rw [ofArchive, if_neg (mt isReadingOrder.mp other), if_neg (mt isEpub.mp another)]
  refine ⟨readingOrder, epub, neither, ?_⟩
  by_cases first : Holds archive ReadingOrder.manifestLocation
  · rw [readingOrder first]
    exact unmissed_map (ReadingOrder.Package.unmissed_ofArchive settings
      (isSome_entry?_of_holds (by decide) first)) _
  · by_cases second : Holds archive Epub.containerLocation
    · rw [epub first second]
      exact unmissed_map (Epub.Package.unmissed_ofArchive settings
        (isSome_entry?_of_holds (by decide) second)) _
    · rw [neither first second]
      exact fun _ => nofun

end Container

/-! ## Positions -/

/-- What is done by the position of an entry is done to one member, and no other is looked at. -/
structure Reaches (archive : Archive) (entry : Entry) (m : Member) : Prop where
  read : archive.read entry.name = m.content
  copied : ∀ p : ReadingOrder.Package, p.archive = archive →
    p.carry entry.name = Output.copyMember m
  alone : ∀ other : Archive, other[entry.position]? = some m →
    other.memberOf entry = .ok m ∧ other.contentOf entry = m.content

theorem reaches_of_describes {archive : Archive} {entry : Entry} {m : Member}
    (found : archive.entry? entry.name = some entry) (describes : archive.Describes entry m) :
    Reaches archive entry m where
  read := by
    rw [Archive.read, bind_of_eq_ok (Archive.entry_eq_ok_iff.mpr found)]
    exact describes.contentOf
  copied p same := by
    rw [ReadingOrder.Package.carry, same, Archive.entry_eq_ok_iff.mpr found]
    simp only [Action.ofResult, pure_bind, describes.memberOf]
  alone other here := by
    have again : other.Describes entry m := { describes with position := here }
    exact ⟨again.memberOf, again.contentOf⟩

/-- What a pass over an archive indexes, and what the archive is opened as. The index agrees with
the archive, and the archive is searched as the index says. Whoever reads or copies a file by its
position reaches that member, whatever else the archive holds. The markers tell what the archive is
opened as, the index leads to them, and so nothing is ever found to be missing. -/
theorem index_agrees (archive : Archive) (settings : Settings)
    (distinct : (archive.map Member.name).Nodup) :
    (Index.build archive).Agrees archive ∧
      (Index.build archive).entries = archive.index ∧
      (∀ name, (Index.build archive).get? name = archive.entry? name) ∧
      (∀ name entry, (Index.build archive).get? name = some entry →
        ∃ m, archive.Describes entry m ∧ Reaches archive entry m) ∧
      Container.ToldByMarkers archive settings := by
  have behind := Index.behind_build distinct
  have searched := behind.get?_eq distinct
  refine ⟨behind.agrees distinct, behind.entries, searched, fun name entry leads => ?_,
    Container.told_by_markers archive settings⟩
  obtain ⟨m, describes, _, named⟩ := (behind.agrees distinct).found name entry leads
  have found : archive.entry? entry.name = some entry := by
    rw [describes.name, named, ← searched]
    exact leads
  exact ⟨m, describes, reaches_of_describes found describes⟩

/-! ## Directories between the files -/

def scatteredBook : Archive := [
  .ofContent "META-INF/" .stored [], .ofContent "mimetype" .stored [0x6f],
  .ofContent "OPS/" .stored [], .ofContent "OPS\\" .stored [],
  .ofContent "META-INF/container.xml" .deflated [0x3c, 0x3e]]

theorem index_agrees_scatteredBook :
    (scatteredBook.map Member.name).Nodup ∧
      (Index.build scatteredBook).places.lookup Epub.containerLocation = some 1 ∧
      ((Index.build scatteredBook).get? Epub.containerLocation).map Entry.position = some 4 ∧
      (Index.build scatteredBook).Agrees scatteredBook ∧
      Container.ofArchive scatteredBook {} =
        .epub <$> Epub.Package.ofArchive scatteredBook {} := by
  have distinct : (scatteredBook.map Member.name).Nodup := by decide
  obtain ⟨agrees, _, _, _, told⟩ := index_agrees scatteredBook {} distinct
  refine ⟨distinct, by decide, by decide, agrees, told.epub ?_ ?_⟩
  · rintro ⟨m, member, named⟩
    have names : ReadingOrder.manifestLocation ∉ scatteredBook.map Member.name := by decide
    exact names (List.mem_map.mpr ⟨m, member, named⟩)
  · have names : Epub.containerLocation ∈ scatteredBook.map Member.name := by decide
    exact List.mem_map.mp names

end Bindery
