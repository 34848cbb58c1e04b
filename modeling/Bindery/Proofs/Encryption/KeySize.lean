import Bindery.Proofs.Encryption.Comments
import Bindery.Proofs.Encryption.Numbers
import Bindery.Proofs.Xml.Runs

/-! The size of a key in the text of a document. Each run of character data in it is read for itself:
every run that is not blank must denote a size, and the last one counts. So the size that is read is
the one that stands there where it stands in one run, and of a number with a reference, a comment or
markup in it only one part is read, the last that is not blank. -/
namespace Bindery.Encryption

open Xml (AllBlank Breaks Content Cursor EndsAt Forest Interruption IsRun Nest Place Runs StartTag)

/-! ## Runs one after the other -/

def solidRuns (runs : List (List Char)) : List (List Char) := runs.filter fun run => ¬ AllBlank run

theorem resized_of_solid {run : List Char} (solid : ¬ AllBlank run) (r : Record) :
    r.resized run = r.absorb [.keySize] (.text run) := by
  rw [Record.resized, if_neg solid, Record.absorb]
  cases readNumber "KeySize" (Nat.pow 2 32) (trim isBlank run) with
  | error e => rfl
  | ok size => rfl

theorem resized_runs_iff {runs : List (List Char)} {r r' : Record} :
    runs.foldlM Record.resized r = .ok r' ↔
      ∃ size?, LastSaid SaysSize (solidRuns runs) r.keySize size? ∧
        r' = { r with keySize := size? } := by
  induction runs generalizing r with
  | nil =>
    simp only [solidRuns, List.filter_nil, lastSaid_nil_iff, exists_eq_left]
    exact ⟨fun same => (Except.ok.inj same).symm, fun same => congrArg Except.ok same.symm⟩
  | cons run runs ih =>
    rw [List.foldlM_cons]
    by_cases blank : AllBlank run
    · have same : solidRuns (run :: runs) = solidRuns runs := by simp [solidRuns, blank]
      rw [same, ← ih, resized_of_blank blank]
      rfl
    · have more : solidRuns (run :: runs) = run :: solidRuns runs := by simp [solidRuns, blank]
      simp only [more, lastSaid_cons_iff, resized_of_solid blank]
      constructor
      · intro ran
        obtain ⟨between, first, later⟩ := ok_of_bind ran
        obtain ⟨size, said, rfl⟩ := absorb_size_iff.mp first
        obtain ⟨size?, last, rfl⟩ := ih.mp later
        exact ⟨size?, ⟨size, said, last⟩, rfl⟩
      · rintro ⟨size?, ⟨size, said, last⟩, rfl⟩
        rw [bind_of_eq_ok (absorb_size_iff.mpr ⟨size, said, rfl⟩)]
        exact ih.mpr ⟨size?, last, rfl⟩

/-! ## The size of a key in a document -/

section Documents

variable {records : List Record} {path : List Part} {nest : Nest}

theorem absorbAll_textless {nodes : Forest} (textless : Forest.Textless nodes) (r : Record) :
    r.absorbAll (.keySize :: path) nodes = .ok r := by
  induction nodes with
  | nil => rfl
  | cons node rest ih =>
    cases node with
    | text content => exact absurd List.mem_cons_self (textless content)
    | element space label tag inside =>
      rw [Record.absorbAll, absorb_unmodelled rfl]
      exact ih fun content member => textless content (List.mem_cons_of_mem _ member)

theorem conclude_interruption {mark : List Char} (interrupts : Interruption mark) (r : Record)
    (front rest : List Char) : Progress.conclude ⟨.inside r (.keySize :: path), records⟩
        (Cursor.remaining ⟨.behind front, nest⟩ (mark ++ rest)) =
      r.resized front >>= fun r' => Progress.conclude ⟨.inside r' (.keySize :: path), records⟩
        (Cursor.remaining ⟨.behind [], nest⟩ rest) := by
  obtain ⟨nodes, textless, reads⟩ := interrupts.reads (trimStart isXmlBlank front).reverse nest
  rw [Xml.heldText_behind] at reads
  rw [Place.behind, conclude_reads reads, after_forest_inside, absorbAll_append, absorbAll_run]
  cases r.resized front with
  | error e => rfl
  | ok r' =>
    change (Record.absorbAll (.keySize :: path) r' nodes).map _ >>= _ = _
    rw [absorbAll_textless textless]
    rfl

/-- All that the rest of a document makes of a record whose key size it stands in depends on what
the runs in front of it make of the record. -/
theorem conclude_runs (records : List Record) (path : List Part) (nest : Nest) {rest : List Char}
    (breaks : Breaks rest) : ∃ tail : Record → Result Manifest, ∀ r content runs,
      Runs content runs → Progress.conclude ⟨.inside r (.keySize :: path), records⟩
        (Cursor.remaining ⟨.behind [], nest⟩ (content ++ rest)) =
          runs.foldlM Record.resized r >>= tail := by
  obtain ⟨tail, made⟩ := conclude_run records path nest breaks
  refine ⟨tail, fun r content runs parted => ?_⟩
  induction parted generalizing r with
  | @last run plain =>
    rw [made r [] run plain, List.nil_append, List.foldlM_cons, bind_assoc]
    rfl
  | @cons run mark content runs plain interrupts _ ih =>
    rw [List.append_assoc, List.append_assoc, Xml.remaining_behind [] plain, List.nil_append,
      conclude_interruption interrupts, List.foldlM_cons, bind_assoc]
    exact congrArg (r.resized run >>= ·) (funext ih)

end Documents

/-- In the size of a key, documents with the same front and the same rest are refused alike in front
of it, or read by what the runs between the two make of one record. -/
theorem read_runs {front after : String} {nest : Nest} (stands : EndsAt front.toList nest)
    (inside : InKeySize nest) (breaks : Breaks after.toList) :
    (∃ e, ∀ content, Manifest.read (front ++ content ++ after) = .error e) ∨
    ∃ (r : Record) (tail : Record → Result Manifest), ∀ content runs, Runs content.toList runs →
      Manifest.read (front ++ content ++ after) = runs.foldlM Record.resized r >>= tail := by
  obtain ⟨found, reads⟩ := stands
  have split (content : String) : Manifest.read (front ++ content ++ after) =
      Progress.after {} found >>= fun p =>
        p.conclude (Cursor.remaining ⟨.behind [], nest⟩ (content.toList ++ after.toList)) := by
    rw [String.append_assoc, read_reads reads, String.toList_append]
    rfl
  simp only [split]
  cases ran : Progress.after {} found with
  | error e => exact .inl ⟨e, fun _ => rfl⟩
  | ok p =>
    have same : openPath? nest = p.path? := path_of_reads reads ran rfl
    obtain ⟨position, records⟩ := p
    rw [InKeySize, same] at inside
    obtain ⟨r, path, rfl⟩ := inside_of_path inside
    obtain ⟨tail, made⟩ := conclude_runs records path nest breaks
    exact .inr ⟨r, tail, fun content runs parted => made r content.toList runs parted⟩

theorem solid_of_saysSize {run : List Char} {size : UInt32} (said : SaysSize run size) :
    ¬ AllBlank run := by
  intro blank
  rw [SaysSize, ← trim_trim, trim_of_allBlank blank] at said
  exact not_denotes_nil _ said

def sizeText : Option UInt32 → String
  | none => ""
  | some size => toString size.toNat

theorem runs_sizeText (size? : Option UInt32) : ∃ runs, Runs (sizeText size?).toList runs ∧
    LastSaid SaysSize (solidRuns runs) none size? := by
  cases size? with
  | none => exact ⟨[[]], .last Xml.isRun_nil, .nil⟩
  | some size =>
    have digits : (sizeText (some size)).toList = Nat.toDigits 10 size.toNat := by
      simp [sizeText, Nat.toString_eq_repr]
    have each := isDigit_toDigits size.toNat
    have plain : IsRun (Nat.toDigits 10 size.toNat) := fun c member =>
      of_isDigit (fun c => c ≠ '<' ∧ c ≠ '&') (by decide) (each c member)
    have said : SaysSize (Nat.toDigits 10 size.toNat) size := by
      rw [SaysSize, trim_eq_self fun c member => not_isBlank_of_isDigit (each c member)]
      exact denotes_toDigits size.toNat
    have one : solidRuns [Nat.toDigits 10 size.toNat] = [Nat.toDigits 10 size.toNat] := by
      simp [solidRuns, solid_of_saysSize said]
    rw [digits]
    refine ⟨_, .last plain, ?_⟩
    rw [one]
    exact .one said

/-- The size of a key in a document, by the runs of what is written there. -/
structure SizeByRuns (front content after : String) (runs : List (List Char)) : Prop where
  /-- Where each run with something in it says a size, the last one counts. -/
  last : ∀ size?, LastSaid SaysSize (solidRuns runs) none size? →
    Manifest.read (front ++ content ++ after) = Manifest.read (front ++ sizeText size? ++ after)
  refused : ∀ run ∈ solidRuns runs, (∀ size, ¬ SaysSize run size) →
    ∃ fault, Manifest.read (front ++ content ++ after) = .error (.format fault)

theorem read_size {front content after : String} {nest : Nest} (stands : EndsAt front.toList nest)
    (inside : InKeySize nest) (breaks : Breaks after.toList) {runs : List (List Char)}
    (parted : Runs content.toList runs) : SizeByRuns front content after runs := by
  constructor
  · intro size? last
    rcases read_runs stands inside breaks with ⟨e, failed⟩ | ⟨r, tail, made⟩
    · rw [failed, failed]
    · obtain ⟨runs', parted', last'⟩ := runs_sizeText size?
      rw [made content runs parted, made _ runs' parted',
        resized_runs_iff.mpr ⟨_, last.over r.keySize, rfl⟩,
        resized_runs_iff.mpr ⟨_, last'.over r.keySize, rfl⟩]
  · intro run listed unsaid
    cases read : Manifest.read (front ++ content ++ after) with
    | error e =>
      obtain ⟨fault, rfl⟩ := formatOnly_read _ _ read
      exact ⟨fault, rfl⟩
    | ok found =>
      rcases read_runs stands inside breaks with ⟨e, failed⟩ | ⟨r, tail, made⟩
      · rw [failed] at read
        cases read
      · rw [made content runs parted] at read
        obtain ⟨r', ran, -⟩ := ok_of_bind read
        obtain ⟨size?, ⟨sizes, each, -⟩, -⟩ := resized_runs_iff.mp ran
        obtain ⟨size, said⟩ := exists_said each run listed
        exact absurd said (unsaid size)

/-! ## Readers of numbers -/

/-- Numbers are read from the texts that denote them and from no others. -/
structure ReadsExactly : Prop where
  number : ∀ what limit text n,
    readNumber what limit text = .ok n ↔ Denotes text n ∧ n < limit
  refused : ∀ what limit text, (∀ n < limit, ¬ Denotes text n) →
    readNumber what limit text = .error (.format (.badNumber what (spell text)))
  bounded : ∀ limit text, 0 < limit → accumulated? limit text = numeral? limit text
  descriptor : ∀ tag c, Compression.ofTag tag = .ok c ↔ Describes tag c
  keySize : ∀ r path records content p,
    Progress.step ⟨.inside r (.keySize :: path), records⟩ (.text content) = .ok p ↔
      ∃ size, SaysSize content size ∧
        p = ⟨.inside { r with keySize := some size } (.keySize :: path), records⟩

theorem readsExactly : ReadsExactly where
  number _ _ _ _ := readNumber_eq_ok_iff
  refused _ _ _ none := readNumber_of_none none
  bounded _ text positive := accumulated_eq_numeral positive text
  descriptor _ _ := ofTag_eq_ok_iff
  keySize r path records content p := by
    rw [step_text_inside]
    constructor
    · intro ran
      obtain ⟨r', read, rfl⟩ := ok_of_map ran
      obtain ⟨size, said, rfl⟩ := absorb_size_iff.mp read
      exact ⟨size, said, rfl⟩
    · rintro ⟨size, said, rfl⟩
      rw [absorb_size_iff.mpr ⟨size, said, rfl⟩]
      rfl

/-! ## Documents with numbers -/

def numberedRoot : StartTag :=
  tagWith "encryption"
    [("xmlns", containerSpace), ("xmlns:e", encryptionSpace), ("xmlns:c", compressionSpace)]

def propertiesTag : StartTag := tagWith "e:EncryptionProperties" []

def propertyTag : StartTag := tagWith "e:EncryptionProperty" []

/-- A document whose only record has the size of its key and a descriptor. -/
def numberedPage (size method length : String) : List Char :=
  numberedRoot.opening ++ decoyRecord.opening ++
    (sizedMethod.opening ++ sizeTag.opening ++ size.toList ++ sizeTag.closing [] ++
      sizedMethod.closing []) ++
    (propertiesTag.opening ++ propertyTag.opening ++
      (tagWith "c:Compression" [("Method", method), ("OriginalLength", length)]).empty ++
      propertyTag.closing [] ++ propertiesTag.closing []) ++
    decoyRecord.closing [] ++ numberedRoot.closing []

def numberedRecord (size : UInt32) (method : UInt16) (length : UInt64) : Record :=
  { algorithm := some "AES-CBC", keySize := some size, properties := some [some ⟨method, length⟩] }

theorem read_numberedPage :
    Manifest.read (spell (numberedPage " +0256 " "+08" "018446744073709551615")) =
      .ok [numberedRecord 256 8 18446744073709551615] := by
  apply ok_of_toOption
  rw [read_spell]
  decide +kernel

theorem forest_spell (text : List Char) : Xml.forest (spell text) =
    (Xml.levels (Cursor.start.remaining (Xml.unmarked text)).1).1 := by
  rw [Xml.forest, Xml.events_eq_remaining, spell, String.toList_ofList]

theorem illegible_numberedPage :
    ∃ e ∈ outermostOf (Xml.forest (spell (numberedPage "256" "65536" "0"))), ¬ Legible e := by
  rw [forest_spell]
  decide +kernel

def sizePage (size : String) : String := spell sizeFront ++ size ++ spell sizeBack

theorem read_sizePage (size : String) : Manifest.read (sizePage size) =
    Progress.conclude {} (Cursor.start.remaining
      (Xml.unmarked (sizeFront ++ size.toList ++ sizeBack))) := by
  have text : sizePage size = spell (sizeFront ++ size.toList ++ sizeBack) := by
    rw [spell_append, spell_append, sizePage, spell, spell, spell, String.ofList_toList]
  rw [text, read_spell]

theorem exists_sizeBack : ∃ rest, (spell sizeBack).toList = '<' :: rest := by
  rw [spell, String.toList_ofList, sizeBack]
  simp only [List.append_assoc]
  exact ⟨_, rfl⟩

theorem runs_cut : Runs "429496729&#54;".toList ["429496729".toList, []] := by
  have digits : IsRun "429496729".toList := by decide
  have within : ∀ c ∈ "#54".toList, c ≠ ';' ∧ c ≠ '&' ∧ c ≠ '<' := by simp
  exact .cons digits (.reference within) (.last Xml.isRun_nil)

theorem saysSize_cut : LastSaid SaysSize (solidRuns ["429496729".toList, []]) none
    (some 429496729) := by
  have solid : solidRuns ["429496729".toList, []] = ["429496729".toList] := by decide
  have number : numeral? (Nat.pow 2 32) (trim isBlank "429496729".toList) = some 429496729 := by
    decide +kernel
  rw [solid]
  exact .one (numeral_eq_some_iff.mp number).1

/-! ## All numbers of a manifest -/

/-- Every number is read from its text as that denotes it, or the document is refused, and the
numbers of an accepted document are those of its elements, each in its record. Character data that
an interruption cuts counts as several texts, so that the size of a key is read as it stands there
only where it stands in one run. -/
theorem read_numbers (text : String) : ReadsExactly ∧
    (∀ found, Manifest.read text = .ok found →
      List.Forall₂ NumbersOf (outermostOf (Xml.forest text)) found) ∧
    (∀ e ∈ outermostOf (Xml.forest text), ¬ Legible e →
      ∃ fault, Manifest.read text = .error (.format fault)) ∧
    ∀ (front content after : String) nest, text = front ++ content ++ after →
      EndsAt front.toList nest → InKeySize nest → Content content.toList → Breaks after.toList →
      (∃ runs, Runs content.toList runs) ∧
      ∀ runs, Runs content.toList runs → SizeByRuns front content after runs := by
  refine ⟨readsExactly, fun found read => numbers_of_read read, ?_, ?_⟩
  · intro e listed illegible
    exact refused_of_illegible listed illegible
  · rintro front content after nest rfl stands inside formed breaks
    exact ⟨formed.exists_runs, fun runs parted => read_size stands inside breaks parted⟩

theorem read_numbers_pages :
    readNumber "KeySize" (Nat.pow 2 32) "4294967296".toList =
      .error (.format (.badNumber "KeySize" (spell "4294967296".toList))) ∧
    accumulated? (Nat.pow 2 16) "+0065535".toList = numeral? (Nat.pow 2 16) "+0065535".toList ∧
    List.Forall₂ NumbersOf
      (outermostOf (Xml.forest (spell (numberedPage " +0256 " "+08" "018446744073709551615"))))
      [numberedRecord 256 8 18446744073709551615] ∧
    (∃ fault, Manifest.read (spell (numberedPage "256" "65536" "0")) = .error (.format fault)) ∧
    Manifest.read (sizePage "429496729&#54;") = Manifest.read (sizePage "429496729") ∧
    ∃ fault, Manifest.read (sizePage "lots") = .error (.format fault) := by
  have readers := (read_numbers "").1
  have inside : InKeySize sizeNest := by decide
  obtain ⟨rest, back⟩ := exists_sizeBack
  have sized (content : String) runs (parted : Runs content.toList runs) :
      SizeByRuns (spell sizeFront) content (spell sizeBack) runs :=
    ((read_numbers _).2.2.2 _ content _ sizeNest rfl endsAt_sizeFront inside parted.content
      (by rw [back]; exact .inl rfl)).2 runs parted
  refine ⟨?_, ?_, ?_, ?_, ?_, ?_⟩
  · refine readers.refused _ _ _ fun n below denotes => ?_
    have number : numeral? (Nat.pow 2 33) "4294967296".toList = some (Nat.pow 2 32) := by
      decide +kernel
    obtain rfl := denotes.unique (numeral_eq_some_iff.mp number).1
    exact absurd below (Nat.lt_irrefl _)
  · exact readers.bounded _ _ (by decide)
  · exact (read_numbers _).2.1 _ read_numberedPage
  · obtain ⟨e, listed, illegible⟩ := illegible_numberedPage
    exact (read_numbers _).2.2.1 e listed illegible
  · have text : sizeText (some 429496729) = "429496729" := by decide
    have same := (sized _ _ runs_cut).last (some 429496729) saysSize_cut
    rw [text] at same
    exact same
  · have plain : IsRun "lots".toList := by decide
    have lots := sized "lots" ["lots".toList] (.last plain)
    have unsaid : ¬ ∃ size, SaysSize "lots".toList size := by
      rw [exists_saysSize_iff]
      decide
    exact lots.refused _ (by decide) fun size said => unsaid ⟨size, said⟩

/-- With a reference for its last digit, the first number that is out of range is read as a size,
without that digit. -/
theorem cut_size_misread :
    Xml.unescape? "429496729&#54;".toList = some "4294967296".toList ∧
      Denotes "4294967296".toList (Nat.pow 2 32) ∧
      Manifest.read (sizePage "429496729&#54;") = .ok [sizedRecord 429496729] := by
  have number : numeral? (Nat.pow 2 33) "4294967296".toList = some (Nat.pow 2 32) := by
    decide +kernel
  refine ⟨by decide +kernel, (numeral_eq_some_iff.mp number).1, ok_of_toOption ?_⟩
  rw [read_sizePage]
  decide +kernel

end Bindery.Encryption
