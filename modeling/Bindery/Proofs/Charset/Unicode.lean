import Bindery.Encryption.Reader
import Bindery.Proofs.Text.Utf16
import Bindery.Proofs.Text.Utf8

/-! Documents in a Unicode form. The mark at the start of a document tells its form, and from the
octets behind the mark one text can be read at most. So the same text is read from all forms of it,
and octets that are no form of a text are refused. -/
namespace Bindery.Charset

/-- The forms in which a document may hold all of Unicode. -/
inductive UnicodeForm where
  | utf8
  | utf16 (order : Utf16.Order)
deriving DecidableEq, Repr

namespace UnicodeForm

def charset : UnicodeForm → Charset
  | utf8 => .utf8
  | utf16 order => .utf16 order

def mark : UnicodeForm → Bytes
  | utf8 => [0xEF, 0xBB, 0xBF]
  | utf16 .little => [0xFF, 0xFE]
  | utf16 .big => [0xFE, 0xFF]

def encode (form : UnicodeForm) (text : String) : Bytes :=
  match form with
  | utf8 => utf8Bytes text
  | utf16 order => Utf16.encode order text.toList

end UnicodeForm

def NamesUnicode (label : String) : Prop := ∃ form : UnicodeForm, ofLabel? label = some form.charset

/-! ## Forms and texts -/

theorem decode?_eq_some_iff (form : UnicodeForm) {bytes : Bytes} {text : String} :
    form.charset.decode? bytes = some text ↔ bytes = form.encode text := by
  cases form with
  | utf8 => exact utf8Text?_eq_some_iff
  | utf16 order =>
    have spelled (cs : List Char) : spell cs = text ↔ cs = text.toList := by
      rw [← String.toList_inj, spell, String.toList_ofList]
    simp only [UnicodeForm.charset, decode?, Option.map_eq_some_iff, spelled, exists_eq_right,
      Utf16.decode?_eq_some_iff, UnicodeForm.encode]

/-- The text of a document whose form is known is the one that its octets are the form of. -/
theorem decodeDocument_eq_ok_iff {bytes : Bytes} {form : UnicodeForm} {skipped : Nat}
    (resolved : resolve bytes = .ok (form.charset, skipped)) {text : String} :
    decodeDocument bytes = .ok text ↔ bytes.drop skipped = form.encode text := by
  rw [← decode?_eq_some_iff]
  simp only [decodeDocument, resolved, bind, Except.bind]
  cases form.charset.decode? (bytes.drop skipped) <;> simp

theorem decodeDocument_undecodable {bytes : Bytes} {form : UnicodeForm} {skipped : Nat}
    (resolved : resolve bytes = .ok (form.charset, skipped))
    (formless : ∀ text, bytes.drop skipped ≠ form.encode text) :
    decodeDocument bytes = .error (.format (.undecodable form.charset.name)) := by
  have none : form.charset.decode? (bytes.drop skipped) = none := by
    cases found : form.charset.decode? (bytes.drop skipped) with
    | none => rfl
    | some text => exact absurd ((decode?_eq_some_iff form).mp found) (formless text)
  simp only [decodeDocument, resolved, bind, Except.bind, none]

/-! ## Marks and labels -/

theorem resolve_marked (form : UnicodeForm) (bytes : Bytes) :
    resolve (form.mark ++ bytes) = .ok (form.charset, form.mark.length) := by
  rcases form with _ | ⟨_ | _⟩ <;> rfl

theorem ofMark?_utf8Bytes {text : String} (unmarked : text.toList.head? ≠ some '\ufeff') :
    ofMark? (utf8Bytes text) = none := by
  rw [utf8Bytes_eq_flatMap]
  cases letters : text.toList with
  | nil => rfl
  | cons c rest =>
    obtain ⟨b, more, octets, notFF, notFE⟩ := exists_first_octet c
    have different : '\ufeff' ≠ c := by
      rintro rfl
      exact unmarked (by rw [letters]; rfl)
    have unlike : ¬ String.utf8EncodeChar '\ufeff' <+:
        String.utf8EncodeChar c ++ rest.flatMap String.utf8EncodeChar :=
      mt eq_of_encode_prefix different
    rw [show String.utf8EncodeChar '\ufeff' = [0xEF, 0xBB, 0xBF] by decide, octets,
      ← List.isPrefixOf_iff_prefix, Bool.not_eq_true] at unlike
    rw [List.flatMap_cons, octets, ofMark?, if_neg (by rw [unlike]; decide)]
    simp [List.isPrefixOf, notFF.symm, notFE.symm]

theorem namesUnicode_iff {label : String} :
    NamesUnicode label ↔ (ofLabel? label).map ofDeclared = some utf8 := by
  rw [Option.map_eq_some_iff]
  constructor
  · rintro ⟨_ | order, named⟩
    · exact ⟨_, named, rfl⟩
    · exact ⟨_, named, rfl⟩
  · rintro ⟨charset, named, unicode⟩
    cases charset with
    | utf8 => exact ⟨.utf8, named⟩
    | utf16 order => exact ⟨.utf16 order, named⟩
    | _ => cases unicode

theorem resolve_unmarked_iff {bytes : Bytes} (unmarked : ofMark? bytes = none) :
    resolve bytes = .ok (utf8, 0) ↔ ∀ label, declared? bytes = some label → NamesUnicode label := by
  simp only [namesUnicode_iff]
  rw [resolve, unmarked]
  cases declared? bytes with
  | none => simp
  | some label =>
    simp only [Option.some.injEq, forall_eq']
    cases ofLabel? label with
    | none => simp
    | some charset => simp

/-! ## The forms of one text -/

/-- A text is read from each of its forms behind the mark of that form, and from UTF-8 also without
a mark unless the text itself begins with one or a label in it asks for another charset. Octets that
are no text in the form found for them are refused. -/
theorem unicode_forms_decode :
    (∀ (text : String) (form : UnicodeForm),
      decodeDocument (form.mark ++ form.encode text) = .ok text ∧
        Encryption.Manifest.readDocument (form.mark ++ form.encode text) =
          Encryption.Manifest.read text) ∧
    (∀ text : String, text.toList.head? ≠ some '\ufeff' →
      (∀ label, declared? (utf8Bytes text) = some label → NamesUnicode label) →
      decodeDocument (utf8Bytes text) = .ok text ∧
        Encryption.Manifest.readDocument (utf8Bytes text) = Encryption.Manifest.read text) ∧
    (∀ (bytes : Bytes) (form : UnicodeForm) (skipped : Nat),
      resolve bytes = .ok (form.charset, skipped) →
      (∀ text, decodeDocument bytes = .ok text ↔ bytes.drop skipped = form.encode text) ∧
        ((∀ text, bytes.drop skipped ≠ form.encode text) →
          decodeDocument bytes = .error (.format (.undecodable form.charset.name)) ∧
            Encryption.Manifest.readDocument bytes =
              .error (.format (.undecodable form.charset.name)))) := by
  have manifest {bytes : Bytes} {text : String} (decoded : decodeDocument bytes = .ok text) :
      Encryption.Manifest.readDocument bytes = Encryption.Manifest.read text := by
    rw [Encryption.Manifest.readDocument, decoded]
    rfl
  refine ⟨fun text form => ?_, fun text unmarked unicode => ?_,
    fun bytes form skipped resolved => ?_⟩
  · have decoded : decodeDocument (form.mark ++ form.encode text) = .ok text :=
      (decodeDocument_eq_ok_iff (resolve_marked form _)).mpr List.drop_left
    exact ⟨decoded, manifest decoded⟩
  · have resolved : resolve (utf8Bytes text) = .ok (UnicodeForm.utf8.charset, 0) :=
      (resolve_unmarked_iff (ofMark?_utf8Bytes unmarked)).mpr unicode
    have decoded : decodeDocument (utf8Bytes text) = .ok text :=
      (decodeDocument_eq_ok_iff resolved).mpr rfl
    exact ⟨decoded, manifest decoded⟩
  · refine ⟨fun text => decodeDocument_eq_ok_iff resolved, fun formless => ?_⟩
    have refused := decodeDocument_undecodable resolved formless
    exact ⟨refused, by rw [Encryption.Manifest.readDocument, refused]; rfl⟩

/-- A page whose label is not that of its octets, with a character of two units in UTF-16. -/
def mislabelledPage : String := "<?xml version='1.0' encoding='UTF-16'?><x>😀</x>"

def halfPage : Bytes := [0xFF, 0xFE, 0x3D, 0xD8]

theorem unicode_forms_decode_mislabelledPage :
    decodeDocument (UnicodeForm.mark (.utf16 .big) ++ Utf16.encode .big mislabelledPage.toList) =
        .ok mislabelledPage ∧
      decodeDocument (utf8Bytes mislabelledPage) = .ok mislabelledPage ∧
      decodeDocument halfPage = .error (.format (.undecodable "UTF-16LE")) := by
  obtain ⟨marked, unmarked, refused⟩ := unicode_forms_decode
  have named : declared? (utf8Bytes mislabelledPage) = some "UTF-16" := by decide +kernel
  have unicode : NamesUnicode "UTF-16" := ⟨.utf16 .little, by decide +kernel⟩
  refine ⟨(marked mislabelledPage (.utf16 .big)).1, ?_, ?_⟩
  · refine (unmarked mislabelledPage (by decide) fun label found => ?_).1
    rw [named] at found
    cases found
    exact unicode
  · have none : (UnicodeForm.utf16 .little).charset.decode? (halfPage.drop 2) = none := by decide
    refine ((refused halfPage (.utf16 .little) 2 rfl).2 fun text same => ?_).1
    rw [(decode?_eq_some_iff _).mpr same] at none
    cases none

end Bindery.Charset
