import Bindery.Proofs.Action
import Bindery.Proofs.Charset.Unicode

/-! Labels at the start of a document. A label is taken from any processing instruction there whose
target begins with the three letters of a declaration, as `xml-stylesheet` does. A document that
begins with no such instruction and with no mark is UTF-8. -/
namespace Bindery.Charset

/-! ## What a label is taken from -/

/-- The parts of a processing instruction around the label in it. -/
structure Announcement where
  front : String
  left : String
  right : String
  quote : Char
  label : String
  back : String

/-- The instruction without its end mark. -/
def Announcement.text (a : Announcement) : String :=
  "<?xml" ++ (a.front ++ ("encoding" ++ (a.left ++ ("=" ++ (a.right ++
    (String.singleton a.quote ++ (a.label ++ (String.singleton a.quote ++ a.back))))))))

structure Announcement.WellFormed (a : Announcement) : Prop where
  first : ¬ "encoding".toList <:+: a.front.toList
  left : ∀ c ∈ a.left.toList, isBlank c = true
  right : ∀ c ∈ a.right.toList, isBlank c = true
  quote : a.quote = '"' ∨ a.quote = '\''
  label : a.quote ∉ a.label.toList
  unended : ¬ "?>".toList <:+: a.text.toList

/-- An instruction that is no declaration: its target goes on behind the three letters. -/
def Announcement.Misplaced (a : Announcement) : Prop :=
  ∀ c ∈ a.front.toList.head?, isXmlBlank c = false

/-- A document begins with the instruction, whatever octets come behind it. -/
def Announcement.Begins (a : Announcement) (bytes : Bytes) : Prop :=
  utf8Bytes (a.text ++ "?>") <+: bytes

theorem toList_text (a : Announcement) : a.text.toList =
    "<?xml".toList ++ a.front.toList ++ ("encoding".toList ++ (a.left.toList ++
      '=' :: (a.right.toList ++ a.quote :: (a.label.toList ++ a.quote :: a.back.toList)))) := by
  simp only [Announcement.text, String.toList_append, String.toList_singleton, List.append_assoc]
  rfl

/-! ## The label of a text -/

section

variable {declaration value : List Char} {label : String}

def quoted? (afterKey : List Char) : Option String :=
  match trimStart isBlank afterKey with
  | '=' :: afterEquals =>
    match trimStart isBlank afterEquals with
    | quote :: value =>
      if quote = '"' ∨ quote = '\'' then
        (cut? [quote] value).map fun (label, _) => spell label
      else none
    | [] => none
  | _ => none

theorem declaredIn?_eq (declaration : List Char) : declaredIn? declaration =
    (cut? "encoding".toList declaration).bind fun parts => quoted? parts.2 := rfl

theorem quoted?_eq_some_iff {afterKey : List Char} : quoted? afterKey = some label ↔
    ∃ left right quote back,
      afterKey = left ++ '=' :: (right ++ quote :: (label.toList ++ quote :: back)) ∧
        (∀ c ∈ left, isBlank c = true) ∧ (∀ c ∈ right, isBlank c = true) ∧
          (quote = '"' ∨ quote = '\'') ∧ quote ∉ label.toList := by
  have value {quote : Char} {value : List Char} :
      (cut? [quote] value).map (fun parts => spell parts.1) = some label ↔
        ∃ back, value = label.toList ++ quote :: back ∧ quote ∉ label.toList := by
    rw [Option.map_eq_some_iff]
    constructor
    · rintro ⟨⟨read, back⟩, found, rfl⟩
      obtain ⟨parts, absent⟩ :=
        (cut?_eq_some_iff (borderless_singleton quote) (List.cons_ne_nil _ _)).mp found
      rw [List.singleton_infix_iff] at absent
      exact ⟨back, by simpa [spell] using parts, by simpa [spell] using absent⟩
    · rintro ⟨back, rfl, absent⟩
      refine ⟨(label.toList, back), ?_, String.ofList_toList⟩
      apply (cut?_eq_some_iff (borderless_singleton quote) (List.cons_ne_nil _ _)).mpr
      exact ⟨rfl, by rwa [List.singleton_infix_iff]⟩
  have equals : isBlank '=' = false := by decide
  constructor
  · intro found
    unfold quoted? at found
    split at found
    · rename_i afterEquals first
      split at found
      · rename_i quote behind second
        split at found
        · rename_i mark
          obtain ⟨left, rfl, blanks⟩ := exists_blanks_of_trimStart first
          obtain ⟨right, rfl, blanks'⟩ := exists_blanks_of_trimStart second
          obtain ⟨back, rfl, absent⟩ := value.mp found
          exact ⟨left, right, quote, back, rfl, blanks, blanks', mark, absent⟩
        · cases found
      · cases found
    · cases found
  · rintro ⟨left, right, quote, back, rfl, blanks, blanks', mark, absent⟩
    have solid : isBlank quote = false := by rcases mark with rfl | rfl <;> decide
    simp only [quoted?, trimStart_append_cons _ blanks equals,
      trimStart_append_cons _ blanks' solid, if_pos mark]
    exact value.mpr ⟨back, rfl, absent⟩

theorem declaredIn?_eq_some_iff : declaredIn? declaration = some label ↔
    ∃ front afterKey, declaration = front ++ ("encoding".toList ++ afterKey) ∧
      ¬ "encoding".toList <:+: front ∧ quoted? afterKey = some label := by
  have whole : Borderless "encoding".toList := by decide
  rw [declaredIn?_eq, Option.bind_eq_some_iff]
  constructor
  · rintro ⟨⟨front, afterKey⟩, found, quoted⟩
    obtain ⟨parts, absent⟩ := (cut?_eq_some_iff whole (by decide)).mp found
    exact ⟨front, afterKey, parts, absent, quoted⟩
  · rintro ⟨front, afterKey, parts, absent, quoted⟩
    exact ⟨(front, afterKey), (cut?_eq_some_iff whole (by decide)).mpr ⟨parts, absent⟩, quoted⟩

end

/-! ## The label of a document -/

/-- What stands in front of the key and what it is taken from, in a declaration without the target
that all declarations begin with. -/
theorem declaredIn?_target_eq_some_iff {more : List Char} {label : String} :
    declaredIn? ("<?xml".toList ++ more) = some label ↔
      ∃ front afterKey, more = front ++ ("encoding".toList ++ afterKey) ∧
        ¬ "encoding".toList <:+: front ∧ quoted? afterKey = some label := by
  have absent : 'e' ∉ "<?xml".toList := by decide
  have passed : cut? "encoding".toList ("<?xml".toList ++ more) =
      (cut? "encoding".toList more).map fun parts => ("<?xml".toList ++ parts.1, parts.2) :=
    cut?_append_of_not_mem absent _ _
  rw [← declaredIn?_eq_some_iff, declaredIn?_eq, declaredIn?_eq, passed, Option.bind_map]
  rfl

theorem target_prefix {head rest : Bytes}
    (begins : utf8Bytes "<?xml" <+: head ++ (utf8Bytes "?>" ++ rest)) :
    utf8Bytes "<?xml" <+: head := by
  have target : utf8Bytes "<?xml" = [60, 63, 120, 109, 108] := by decide
  have mark : utf8Bytes "?>" = [63, 62] := by decide
  rw [target, mark] at begins
  rw [target]
  rcases head with _ | ⟨a, _ | ⟨b, _ | ⟨c, _ | ⟨d, _ | ⟨e, head⟩⟩⟩⟩⟩ <;>
    simp_all [List.cons_prefix_cons]

/-- The text that a label is taken from: what stands in front of the first end mark, if that is
UTF-8 and begins like a declaration. -/
theorem declared?_eq_some_iff_text {bytes : Bytes} {label : String} :
    declared? bytes = some label ↔ ∃ (text : String) (rest : Bytes),
      bytes = utf8Bytes text ++ (utf8Bytes "?>" ++ rest) ∧ "<?xml".toList <+: text.toList ∧
        ¬ "?>".toList <:+: text.toList ∧ declaredIn? text.toList = some label := by
  have whole : Borderless (utf8Bytes "?>") := by decide
  have filled : utf8Bytes "?>" ≠ [] := by decide
  have asciiMark : IsAscii "?>".toList := by decide
  have asciiTarget : IsAscii "<?xml".toList := by decide
  have apart (text : String) : utf8Bytes "?>" <:+: utf8Bytes text ↔
      "?>".toList <:+: text.toList := by
    rw [utf8Bytes_eq_flatMap, utf8Bytes_eq_flatMap, infix_flatMap_encode asciiMark (by decide)]
  have targets (text : String) : utf8Bytes "<?xml" <+: utf8Bytes text ↔
      "<?xml".toList <+: text.toList := by
    rw [utf8Bytes_eq_flatMap, utf8Bytes_eq_flatMap, prefix_flatMap_encode asciiTarget]
  constructor
  · intro declared
    unfold declared? at declared
    split at declared
    · rename_i begins
      obtain ⟨⟨head, rest⟩, found, opened⟩ := Option.bind_eq_some_iff.mp declared
      obtain ⟨text, read, named⟩ := Option.bind_eq_some_iff.mp opened
      obtain ⟨rfl, absent⟩ := (cut?_eq_some_iff whole filled).mp found
      obtain rfl := utf8Text?_eq_some_iff.mp read
      have target := target_prefix (List.isPrefixOf_iff_prefix.mp begins)
      exact ⟨text, rest, rfl, (targets text).mp target, mt (apart text).mpr absent, named⟩
    · cases declared
  · rintro ⟨text, rest, rfl, target, unended, named⟩
    have begins : (utf8Bytes "<?xml").isPrefixOf
        (utf8Bytes text ++ (utf8Bytes "?>" ++ rest)) = true :=
      List.isPrefixOf_iff_prefix.mpr (((targets text).mpr target).trans (List.prefix_append _ _))
    have found : cut? (utf8Bytes "?>") (utf8Bytes text ++ (utf8Bytes "?>" ++ rest)) =
        some (utf8Bytes text, rest) :=
      (cut?_eq_some_iff whole filled).mpr ⟨rfl, mt (apart text).mp unended⟩
    rw [declared?, if_pos begins, found]
    simp only [Option.bind_eq_bind, Option.bind_some, utf8Text?_utf8Bytes, named]

theorem declared?_eq_some_iff {bytes : Bytes} {label : String} : declared? bytes = some label ↔
    ∃ a : Announcement, a.WellFormed ∧ a.label = label ∧ a.Begins bytes := by
  have begins (a : Announcement) (bytes : Bytes) : a.Begins bytes ↔
      ∃ rest, bytes = utf8Bytes a.text ++ (utf8Bytes "?>" ++ rest) := by
    rw [Announcement.Begins, utf8Bytes_append]
    simp only [List.IsPrefix, List.append_assoc, eq_comm]
  simp only [begins]
  rw [declared?_eq_some_iff_text]
  constructor
  · rintro ⟨text, rest, rfl, ⟨more, target⟩, unended, declared⟩
    rw [← target] at declared
    obtain ⟨front, afterKey, rfl, free, quoted⟩ := declaredIn?_target_eq_some_iff.mp declared
    obtain ⟨left, right, quote, back, rfl, blanks, blanks', mark, outside⟩ :=
      quoted?_eq_some_iff.mp quoted
    let a : Announcement := ⟨spell front, spell left, spell right, quote, label, spell back⟩
    have same : a.text = text := by
      rw [← String.toList_inj, toList_text, ← target]
      simp [a, spell]
    refine ⟨a, ⟨?_, ?_, ?_, mark, outside, same ▸ unended⟩, rfl, rest, by rw [same]⟩
    · simpa [a, spell] using free
    · simpa [a, spell] using blanks
    · simpa [a, spell] using blanks'
  · rintro ⟨a, ⟨free, blanks, blanks', mark, outside, unended⟩, rfl, rest, rfl⟩
    have letters := toList_text a
    rw [List.append_assoc] at letters
    refine ⟨a.text, rest, rfl, letters ▸ List.prefix_append _ _, unended, ?_⟩
    rw [letters]
    exact declaredIn?_target_eq_some_iff.mpr ⟨_, _, rfl, free,
      quoted?_eq_some_iff.mpr ⟨_, _, _, _, rfl, blanks, blanks', mark, outside⟩⟩

/-! ## Documents without a declaration -/

def blankOctets : Bytes := [0x20, 0x09, 0x0D, 0x0A]

/-- A document begins with a declaration: with its target and white space behind that. -/
def BeginsDeclaration (bytes : Bytes) : Prop :=
  ∃ b ∈ blankOctets, utf8Bytes "<?xml" ++ [b] <+: bytes

instance (bytes : Bytes) : Decidable (BeginsDeclaration bytes) :=
  inferInstanceAs (Decidable (∃ b ∈ blankOctets, utf8Bytes "<?xml" ++ [b] <+: bytes))

theorem exists_blankOctet {c : Char} (blank : isXmlBlank c = true) :
    ∃ b ∈ blankOctets, String.utf8EncodeChar c = [b] := by
  simp only [isXmlBlank, Bool.or_eq_true, beq_iff_eq] at blank
  rcases blank with ((rfl | rfl) | rfl) | rfl
  · exact ⟨0x20, by decide, by decide⟩
  · exact ⟨0x09, by decide, by decide⟩
  · exact ⟨0x0A, by decide, by decide⟩
  · exact ⟨0x0D, by decide, by decide⟩

/-- Where no declaration begins, an instruction that a label is taken from is none either. -/
theorem Announcement.Begins.misplaced {a : Announcement} {bytes : Bytes} (begins : a.Begins bytes)
    (undeclared : ¬ BeginsDeclaration bytes) : a.Misplaced := by
  intro c first
  by_contra blank
  obtain ⟨b, listed, octet⟩ := exists_blankOctet (by simpa using blank)
  refine undeclared ⟨b, listed, List.IsPrefix.trans ?_ begins⟩
  obtain ⟨front, letters⟩ : ∃ front, a.front.toList = c :: front :=
    List.head?_eq_some_iff.mp first
  have text : utf8Bytes (a.text ++ "?>") = utf8Bytes "<?xml" ++ (String.utf8EncodeChar c ++
      (front.flatMap String.utf8EncodeChar ++ ("encoding".toList ++ (a.left.toList ++
        '=' :: (a.right.toList ++ a.quote :: (a.label.toList ++
          a.quote :: a.back.toList))) ++ "?>".toList).flatMap String.utf8EncodeChar)) := by
    rw [utf8Bytes_eq_flatMap, String.toList_append, toList_text, letters, utf8Bytes_eq_flatMap]
    simp only [List.flatMap_append, List.flatMap_cons, List.append_assoc]
  rw [text, octet, ← List.append_assoc]
  exact List.prefix_append _ _

/-- In a document that begins with no declaration, a label is found if and only if the document
begins with another processing instruction that looks like one. Without a mark and without such an
instruction it is UTF-8, and with one it is so only if its label names that charset. -/
theorem undeclared_label_iff {bytes : Bytes} (undeclared : ¬ BeginsDeclaration bytes) :
    (∀ label, declared? bytes = some label ↔
      ∃ a : Announcement, a.WellFormed ∧ a.Misplaced ∧ a.label = label ∧ a.Begins bytes) ∧
    (ofMark? bytes = none →
      (resolve bytes = .ok (utf8, 0) ↔ ∀ a : Announcement, a.WellFormed → a.Misplaced →
        a.Begins bytes → NamesUnicode a.label) ∧
      ((∀ a : Announcement, a.WellFormed → a.Misplaced → ¬ a.Begins bytes) →
        ∀ text, decodeDocument bytes = .ok text ↔ bytes = utf8Bytes text)) := by
  have label (label : String) : declared? bytes = some label ↔
      ∃ a : Announcement, a.WellFormed ∧ a.Misplaced ∧ a.label = label ∧ a.Begins bytes := by
    rw [declared?_eq_some_iff]
    constructor
    · rintro ⟨a, formed, named, begins⟩
      exact ⟨a, formed, begins.misplaced undeclared, named, begins⟩
    · rintro ⟨a, formed, -, named, begins⟩
      exact ⟨a, formed, named, begins⟩
  refine ⟨label, fun unmarked => ?_⟩
  have unicode : resolve bytes = .ok (utf8, 0) ↔ ∀ a : Announcement, a.WellFormed → a.Misplaced →
      a.Begins bytes → NamesUnicode a.label := by
    rw [resolve_unmarked_iff unmarked]
    constructor
    · intro named a formed misplaced begins
      exact named a.label ((label _).mpr ⟨a, formed, misplaced, rfl, begins⟩)
    · intro named given found
      obtain ⟨a, formed, misplaced, rfl, begins⟩ := (label given).mp found
      exact named a formed misplaced begins
  refine ⟨unicode, fun none text => ?_⟩
  have resolved : resolve bytes = .ok (UnicodeForm.utf8.charset, 0) :=
    unicode.mpr fun a formed misplaced begins => absurd begins (none a formed misplaced)
  exact decodeDocument_eq_ok_iff resolved

/-- A page that begins with an instruction for its style sheet, which has a label in it. -/
def styledPage : String := "<?xml-stylesheet encoding='windows-1252'?><x>é</x>"

/-- The same with a name in the instruction that a label is not taken from. -/
def sheetedPage : String := "<?xml-stylesheet href='encoding.css'?><x>é</x>"

theorem undeclared_label_sheetedPage :
    ¬ BeginsDeclaration (utf8Bytes sheetedPage) ∧
      decodeDocument (utf8Bytes sheetedPage) = .ok sheetedPage := by
  have undeclared : ¬ BeginsDeclaration (utf8Bytes sheetedPage) := by decide +kernel
  have unmarked : ofMark? (utf8Bytes sheetedPage) = none := by decide +kernel
  have unlabelled : declared? (utf8Bytes sheetedPage) = none := by decide +kernel
  obtain ⟨label, unicode⟩ := undeclared_label_iff undeclared
  refine ⟨undeclared, ((unicode unmarked).2 ?_ sheetedPage).mpr rfl⟩
  intro a formed misplaced begins
  have found := (label a.label).mpr ⟨a, formed, misplaced, rfl, begins⟩
  rw [unlabelled] at found
  cases found

theorem styledPage_misread :
    ¬ BeginsDeclaration (utf8Bytes styledPage) ∧ ofMark? (utf8Bytes styledPage) = none ∧
      declared? (utf8Bytes styledPage) = some "windows-1252" ∧
      decodeDocument (utf8Bytes styledPage) =
        .ok "<?xml-stylesheet encoding='windows-1252'?><x>Ã©</x>" := by
  refine ⟨by decide +kernel, by decide +kernel, by decide +kernel, ok_of_toOption ?_⟩
  decide +kernel

end Bindery.Charset
