import Bindery.Encryption.Pieces
import Bindery.Proofs.Encryption.RoundTrip
import Bindery.Proofs.Xml.Layout

/-! The layout of a written manifest. It is a document, one tag or one short element a line, and
the printer that it is written with never closes an element while none is open. -/
namespace Bindery.Encryption

open Xml

/-! ## Pieces -/

theorem pieces_method (r : Record) : r.methodOutline.pieces = r.methodPieces := by
  unfold Record.methodOutline Record.methodPieces
  cases r.keySize with
  | some size => rfl
  | none => cases r.algorithm <;> rfl

theorem pieces_key (r : Record) : r.keyOutline.pieces = r.keyPieces := by
  unfold Record.keyOutline Record.keyPieces
  rcases r.keyInfo with _ | ⟨keyName, _ | retrieval⟩ <;> rfl

theorem pieces_property (property : Option Compression) :
    (Record.propertyOutline property).pieces = Record.propertyPieces property := by
  cases property <;> rfl

theorem pieces_properties (r : Record) : r.propertiesOutline.pieces = r.propertiesPieces := by
  unfold Record.propertiesOutline Record.propertiesPieces
  cases r.properties with
  | none => rfl
  | some properties =>
    simp only [Outline.pieces_nest, Outline.pieces_flatMap, pieces_property]

theorem pieces_record (r : Record) : r.outline.pieces = r.pieces := by
  have reference (uri : String) :
      (Outline.leaf "enc:CipherReference" [("URI", some uri)]).pieces =
        [.empty "enc:CipherReference" [("URI", some uri)]] := rfl
  simp [Record.outline, Record.pieces, pieces_method, pieces_key, pieces_properties, reference]

theorem pieces_manifest (manifest : Manifest) :
    (Manifest.outline manifest).pieces = manifest.pieces := by
  unfold Manifest.outline Manifest.pieces
  split
  · rfl
  · simp only [Outline.pieces_nest, Outline.pieces_flatMap, pieces_record]

/-! ## Texts -/

namespace Record

def fields (r : Record) : List (Option String) :=
  let retrieval := r.keyInfo.bind KeyInfo.retrieval
  [r.id, r.type, r.mimeType, r.encoding, r.algorithm, r.keyInfo.bind KeyInfo.keyName,
    retrieval.map Retrieval.uri, retrieval.map Retrieval.type, some r.uri]

def texts (r : Record) : List String := r.fields.filterMap (·)

def Shows (r : Record) (outline : Outline) : Prop :=
  ∀ text ∈ outline.texts, some text ∈ r.fields ∨ ∃ n : Nat, text = toString n

variable {r : Record}

theorem shows_method : r.Shows r.methodOutline := by
  unfold methodOutline Shows fields
  cases r.keySize <;> cases r.algorithm <;> simp [Values.present]

theorem shows_key : r.Shows r.keyOutline := by
  unfold keyOutline Shows fields
  rcases r.keyInfo with _ | ⟨_ | keyName, _ | retrieval⟩ <;> simp [Values.present]

theorem shows_property (property : Option Compression) : r.Shows (propertyOutline property) := by
  unfold propertyOutline Shows
  cases property <;> simp [Values.present, compressionOutline]

theorem shows_properties : r.Shows r.propertiesOutline := by
  unfold propertiesOutline
  cases r.properties with
  | none => simp [Shows]
  | some properties =>
    intro text member
    have inside : text ∈ properties.flatMap fun property => (propertyOutline property).texts := by
      simpa [Values.present, Outline.texts_flatMap] using member
    obtain ⟨property, _, shown⟩ := List.mem_flatMap.mp inside
    exact shows_property property text shown

theorem shows_append {first second : Outline} (before : r.Shows first) (after : r.Shows second) :
    r.Shows (first ++ second) := by
  intro text member
  rw [Outline.texts_append] at member
  exact (List.mem_append.mp member).elim (before text) (after text)

theorem shows_cipherData (r : Record) : r.Shows (Outline.nest "enc:CipherData" []
    (Outline.leaf "enc:CipherReference" [("URI", some r.uri)])) := by
  simp [Shows, Values.present, fields]

theorem shows_inner (r : Record) : r.Shows r.inner :=
  shows_append (shows_append (shows_append shows_method shows_key) (shows_cipherData r))
    shows_properties

theorem shows_outline (r : Record) : r.Shows r.outline := by
  intro text member
  rw [r.outline_eq, Outline.texts_nest] at member
  rcases List.mem_append.mp member with tag | inside
  · have first : r.values.map Prod.snd <+: r.fields := ⟨_, rfl⟩
    exact .inl (first.subset (Values.some_mem_of_mem_present tag))
  · exact shows_inner r text inside

/-- A record without line breaks in its texts is written without line breaks in its lines. -/
theorem unbroken_outline {r : Record} (unbroken : ∀ text ∈ r.texts, '\n' ∉ text.toList) :
    ∀ text ∈ r.outline.texts, '\n' ∉ text.toList := by
  intro text member
  rcases shows_outline r text member with known | ⟨n, rfl⟩
  · exact unbroken text (List.mem_filterMap.mpr ⟨_, known, rfl⟩)
  · intro inside
    exact absurd ((solidText_toString n).2 '\n' inside).2 (by decide)

end Record

/-! ## The whole text -/

theorem document_manifest (manifest : Manifest) : Document (Manifest.outline manifest).lines := by
  have named : PlainName "encryption" := by decide
  cases manifest with
  | nil => exact document_leaf named plain_rootValues
  | cons r manifest => exact document_nest named plain_rootValues (inner_records (r :: manifest))

theorem printed_manifest (manifest : Manifest) : Printed (Manifest.outline manifest) := by
  cases manifest with
  | nil => exact printed_leaf _ _
  | cons r manifest => exact (inner_records (r :: manifest)).printed.nest _ _

theorem unbroken_rootValues :
    ∀ text ∈ (Values.present Manifest.rootValues).map Prod.snd, '\n' ∉ text.toList := by
  decide

theorem unbroken_manifest {manifest : Manifest}
    (unbroken : ∀ r ∈ manifest, ∀ text ∈ r.texts, '\n' ∉ text.toList) :
    ∀ text ∈ (Manifest.outline manifest).texts, '\n' ∉ text.toList := by
  cases manifest with
  | nil =>
    rw [outline_nil, Outline.texts_leaf]
    exact unbroken_rootValues
  | cons r manifest =>
    rw [outline_cons, Outline.texts_nest, Outline.texts_flatMap]
    intro text member
    rcases List.mem_append.mp member with root | inside
    · exact unbroken_rootValues text root
    · obtain ⟨r', listed, shown⟩ := List.mem_flatMap.mp inside
      exact Record.unbroken_outline (unbroken r' listed) text shown

theorem print_eq (manifest : Manifest) : manifest.print = ⟨manifest.render, 0⟩ := by
  rw [Manifest.print, ← pieces_manifest, (printed_manifest manifest _).1]
  simp [Printer.behind, Manifest.printer, Printer.line, Manifest.render]

/-- What is written for a manifest, and how the printer comes to write it. -/
structure Manifest.LaidOut (manifest : Manifest) : Prop where
  /-- The declaration and the lines of a document, each with its line break as the only one. -/
  lines : ∃ lines, Document lines ∧
    manifest.render.toList = (declaration.toList :: lines).flatMap (· ++ ['\n']) ∧
    ∀ line ∈ declaration.toList :: lines, '\n' ∉ line
  /-- The printer writes the same and has nothing open in the end. -/
  printed : manifest.print = ⟨manifest.render, 0⟩
  counted : ∀ before name after, manifest.pieces = before ++ .closing name :: after →
    0 < (before.foldl Printer.put printer).depth

/-- Manifests without line breaks in their texts are laid out by depth. -/
theorem laidOut_of_unbroken (manifest : Manifest)
    (unbroken : ∀ r ∈ manifest, ∀ text ∈ r.texts, '\n' ∉ text.toList) : manifest.LaidOut where
  lines := by
    refine ⟨(Manifest.outline manifest).lines, document_manifest manifest, ?_, ?_⟩
    · simp [Manifest.render, Outline.toList_render_lines]
    · rintro line (_ | ⟨_, listed⟩)
      · decide
      · exact (plain_outline manifest).unbroken (unbroken_manifest unbroken) line listed
  printed := print_eq manifest
  counted before name after split := by
    have steady := (printed_manifest manifest Manifest.printer).2
    rw [pieces_manifest, split] at steady
    exact steady.depth_pos

/-- A record with all its parts, whose texts look like markup. -/
def tanglingPage : Record where
  id := some "</encryption>"
  algorithm := some "\"/><enc:EncryptedData"
  keySize := some 256
  keyInfo := some { keyName := some "<key>", retrieval := some ⟨"license.lcpl", "&gt;"⟩ }
  uri := "page.xhtml"
  properties := some [none, some ⟨deflateMethod, 10⟩]

theorem laidOut_tanglingPage :
    (∀ r ∈ [tanglingPage], ∀ text ∈ r.texts, '\n' ∉ text.toList) ∧
      Manifest.LaidOut [tanglingPage] := by
  have unbroken : ∀ r ∈ [tanglingPage], ∀ text ∈ r.texts, '\n' ∉ text.toList := by decide
  exact ⟨unbroken, laidOut_of_unbroken [tanglingPage] unbroken⟩

example : (Printer.put {} (.closing "encryption")).depth = 0 := rfl

end Bindery.Encryption
