import Bindery.Proofs.Encryption.Skipping
import Bindery.Proofs.Text.Utf8

/-! Comments and processing instructions in a manifest. Outside the size of a key they say nothing.
A key size is read anew from each run of character data in it, so that a remark between two runs
leaves the number of the second one for that of the whole. -/
namespace Bindery.Encryption

open Xml (AllBlank Breaks Cursor EndsAt EndsIn Forest IsRun Nest Node Place Remark Silent StartTag)

/-! ## Trimmed runs -/

theorem isBlank_of_isXmlBlank {c : Char} (blank : isXmlBlank c = true) : isBlank c = true := by
  simp only [isXmlBlank, Bool.or_eq_true, beq_iff_eq] at blank
  rcases blank with ((rfl | rfl) | rfl) | rfl <;> decide

theorem trim_append_blanks (run blanks : List Char)
    (blank : ∀ c ∈ blanks, isBlank c = true) :
    trim isBlank (run ++ blanks) = trim isBlank run := by
  unfold trim trimStart
  rw [List.dropWhile_append]
  cases kept : run.dropWhile isBlank with
  | nil =>
    have none : (blanks ++ []).dropWhile isBlank = [] := List.dropWhile_append_of_pos blank
    rw [List.append_nil] at none
    rw [List.isEmpty_nil, if_pos rfl, none]
  | cons c kept =>
    rw [List.isEmpty_cons, if_neg (by decide)]
    exact trimEnd_append isBlank _ blank

theorem trim_trimStart (run : List Char) :
    trim isBlank (trimStart isXmlBlank run) = trim isBlank run := by
  have same : (run.dropWhile isXmlBlank).dropWhile isBlank = run.dropWhile isBlank := by
    induction run with
    | nil => rfl
    | cons c run ih =>
      cases blank : isXmlBlank c with
      | false => simp [List.dropWhile_cons, blank]
      | true => simpa [List.dropWhile_cons, blank, isBlank_of_isXmlBlank blank] using ih
  exact congrArg (trimEnd isBlank) same

theorem trim_trim (run : List Char) : trim isBlank (trim isXmlBlank run) = trim isBlank run := by
  obtain ⟨blanks, parts, blank⟩ := eq_trimEnd_append isXmlBlank (trimStart isXmlBlank run)
  have dropped := trim_append_blanks (trim isXmlBlank run) blanks fun c member =>
    isBlank_of_isXmlBlank (blank c member)
  rw [← trim_trimStart run, parts]
  exact dropped.symm

theorem trim_of_allBlank {run : List Char} (blank : AllBlank run) : trim isXmlBlank run = [] := by
  have none : (run ++ []).dropWhile isXmlBlank = [] := List.dropWhile_append_of_pos blank
  rw [List.append_nil] at none
  rw [trim, trimStart, none]
  rfl

theorem allBlank_of_trim {run : List Char} (none : trim isXmlBlank run = []) : AllBlank run := by
  obtain ⟨blanks, parts, blank⟩ := eq_trimEnd_append isXmlBlank (trimStart isXmlBlank run)
  have behind : AllBlank (trimStart isXmlBlank run) := by
    rw [trim] at none
    rw [none, List.nil_append] at parts
    rw [parts]
    exact blank
  rw [← List.takeWhile_append_dropWhile (p := isXmlBlank) (l := run)]
  exact List.forall_mem_append.mpr ⟨List.all_eq_true.mp List.all_takeWhile, behind⟩

/-! ## The size of a key -/

def InKeySize (nest : Nest) : Prop := (openPath? nest).bind List.head? = some .keySize

instance (nest : Nest) : Decidable (InKeySize nest) := inferInstanceAs (Decidable (_ = _))

def Record.resized (r : Record) (run : List Char) : Result Record :=
  if AllBlank run then .ok r
  else (readNumber "KeySize" (Nat.pow 2 32) (trim isBlank run)).map fun size =>
    { r with keySize := some (UInt32.ofNat size) }

theorem absorbAll_run (path : List Part) (r : Record) (run : List Char) :
    r.absorbAll (.keySize :: path) (Xml.runText run) = r.resized run := by
  unfold Xml.runText Record.resized
  have kept := trim_trim run
  split
  · rename_i none
    rw [if_pos (allBlank_of_trim none)]
    rfl
  · rename_i solid
    rw [if_neg fun blank => solid (trim_of_allBlank blank), ← kept, Record.absorbAll, Record.absorb]
    cases readNumber "KeySize" (Nat.pow 2 32) (trim isBlank (trim isXmlBlank run)) with
    | error e => rfl
    | ok size => rfl

section Runs

variable {r : Record} {first second : List Char}

theorem resized_of_blank (blank : AllBlank first) : r.resized first = .ok r := if_pos blank

theorem resized_append_blank (r : Record) (first : List Char) (blank : AllBlank second) :
    r.resized (first ++ second) = r.resized first := by
  have same : AllBlank (first ++ second) ↔ AllBlank first :=
    List.forall_mem_append.trans (and_iff_left blank)
  unfold Record.resized
  rw [trim_append_blanks first second fun c member => isBlank_of_isXmlBlank (blank c member)]
  simp only [same]

theorem resized_blank_append (r : Record) (second : List Char) (blank : AllBlank first) :
    r.resized (first ++ second) = r.resized second := by
  have same : AllBlank (first ++ second) ↔ AllBlank second :=
    List.forall_mem_append.trans (and_iff_right blank)
  have dropped : trim isBlank (first ++ second) = trim isBlank second := by
    rw [trim, trim, trimStart, trimStart,
      List.dropWhile_append_of_pos fun c member => isBlank_of_isXmlBlank (blank c member)]
  unfold Record.resized
  rw [dropped]
  simp only [same]

/-- Of two runs the second one counts, once the first one is found to be a number. -/
theorem resized_parts {α : Type} {tail : Record → Result α} {a : α}
    (whole : r.resized (first ++ second) >>= tail = .ok a) :
    (r.resized first >>= fun r' => r'.resized second >>= tail) =
      if AllBlank first ∨ AllBlank second then .ok a
      else match numeral? (Nat.pow 2 32) (trim isBlank first) with
        | none => .error (.format (.badNumber "KeySize" (spell (trim isBlank first))))
        | some _ => r.resized second >>= tail := by
  by_cases blank : AllBlank first
  · rw [if_pos (.inl blank), resized_of_blank blank, ← whole, resized_blank_append r second blank]
    rfl
  by_cases later : AllBlank second
  · rw [if_pos (.inr later), ← whole, resized_append_blank r first later]
    refine congrArg (r.resized first >>= ·) (funext fun r' => ?_)
    rw [resized_of_blank later]
    rfl
  · rw [if_neg (by simp [blank, later])]
    simp only [Record.resized, if_neg blank, if_neg later, readNumber]
    cases numeral? (Nat.pow 2 32) (trim isBlank first) with
    | none => rfl
    | some size =>
      cases numeral? (Nat.pow 2 32) (trim isBlank second) with
      | none => rfl
      | some later => rfl

end Runs

/-! ## Documents with and without a remark -/

section Documents

variable {records : List Record} {path : List Part} {nest : Nest}

/-- All that the rest of a document makes of a record whose key size it stands in depends on what
the character data in front of it makes of the record. -/
theorem conclude_run (records : List Record) (path : List Part) (nest : Nest) {rest : List Char}
    (breaks : Breaks rest) : ∃ tail : Record → Result Manifest, ∀ (r : Record) front run,
      IsRun run → Progress.conclude ⟨.inside r (.keySize :: path), records⟩
        (Cursor.remaining ⟨.behind front, nest⟩ (run ++ rest)) =
          r.resized (front ++ run) >>= tail := by
  obtain ⟨behind, fault, made⟩ := Xml.remaining_run nest breaks
  refine ⟨fun r => Progress.conclude ⟨.inside r (.keySize :: path), records⟩ (behind, fault),
    fun r front run plain => ?_⟩
  rw [made front run plain, conclude_append, after_forest_inside, absorbAll_run]
  cases r.resized (front ++ run) with
  | error e => rfl
  | ok r' => rfl

theorem conclude_silent {mark : List Char} (silent : Silent mark) (r : Record)
    (front rest : List Char) : Progress.conclude ⟨.inside r (.keySize :: path), records⟩
        (Cursor.remaining ⟨.behind front, nest⟩ (mark ++ rest)) =
      r.resized front >>= fun r' => Progress.conclude ⟨.inside r' (.keySize :: path), records⟩
        (Cursor.remaining ⟨.behind [], nest⟩ rest) := by
  have reads := silent (trimStart isXmlBlank front).reverse nest
  rw [Xml.heldText_behind] at reads
  rw [Place.behind, conclude_reads reads, after_forest_inside, absorbAll_run]
  cases r.resized front with
  | error e => rfl
  | ok r' => rfl

end Documents

theorem inside_of_path {position : Position} {records : List Record}
    (inside : (Progress.path? ⟨position, records⟩).bind List.head? = some .keySize) :
    ∃ r path, position = .inside r (.keySize :: path) := by
  cases position with
  | inside r open' =>
    cases open' with
    | nil => cases inside
    | cons part path =>
      obtain rfl : part = .keySize := Option.some.inj inside
      exact ⟨r, path, rfl⟩
  | _ => cases inside

/-- Outside the size of a key, a document reads the same with and without a comment or a processing
instruction between its tags, or is refused with the same error. -/
theorem read_outside {before remark after : String} {nest : Nest}
    (stands : EndsIn before.toList nest) (formed : Remark remark.toList)
    (outside : ¬ InKeySize nest) :
    Manifest.read (before ++ remark ++ after) = Manifest.read (before ++ after) := by
  obtain ⟨found, data, reads⟩ := stands
  rw [String.append_assoc, read_reads reads, read_reads reads, String.toList_append]
  cases ran : Progress.after {} found with
  | error e => rfl
  | ok p =>
    have same : openPath? nest = p.path? := path_of_reads reads ran rfl
    have deaf : p.Deaf := deaf_of_path (same ▸ outside)
    obtain ⟨texts, held⟩ := Xml.heldText_eq data
    rw [bind_of_eq_ok rfl, bind_of_eq_ok rfl, (formed.silent data nest).remaining, held,
      deaf.conclude]
    exact deaf.content nest [] data after.toList

/-- In the size of a key, a remark parts the character data. If there is some on both sides of it,
what stands in front must be a number, and then the document reads as without that. -/
theorem read_inside {front run remark after : String} {nest : Nest} {m : Manifest}
    (stands : EndsAt front.toList nest) (plain : IsRun run.toList) (formed : Remark remark.toList)
    (inside : InKeySize nest) {next rest : List Char} (parts : after.toList = next ++ rest)
    (plainNext : IsRun next) (breaks : Breaks rest)
    (accepted : Manifest.read (front ++ run ++ after) = .ok m) :
    Manifest.read (front ++ run ++ remark ++ after) =
      if AllBlank run.toList ∨ AllBlank next then .ok m
      else match numeral? (Nat.pow 2 32) (trim isBlank run.toList) with
        | none => .error (.format (.badNumber "KeySize" (spell (trim isBlank run.toList))))
        | some _ => Manifest.read (front ++ after) := by
  obtain ⟨found, reads⟩ := stands
  rw [String.append_assoc, read_reads reads] at accepted
  rw [String.append_assoc, String.append_assoc, read_reads reads, read_reads reads]
  cases ran : Progress.after {} found with
  | error e =>
    rw [ran] at accepted
    cases accepted
  | ok p =>
    have same : openPath? nest = p.path? := path_of_reads reads ran rfl
    rw [bind_of_eq_ok ran, String.toList_append] at accepted
    rw [bind_of_eq_ok rfl, bind_of_eq_ok rfl, String.toList_append, String.toList_append]
    obtain ⟨position, records⟩ := p
    rw [InKeySize, same] at inside
    obtain ⟨r, path, rfl⟩ := inside_of_path inside
    obtain ⟨tail, made⟩ := conclude_run records path nest breaks
    have behind (r' : Record) := made r' [] next plainNext
    rw [← parts] at behind
    -- The runs meet in the document without the remark, and stand apart in the one with it.
    have whole := made r [] (run.toList ++ next) (List.forall_mem_append.mpr ⟨plain, plainNext⟩)
    rw [List.append_assoc, ← parts] at whole
    have start : Place.content [] = Place.behind [] := rfl
    rw [start] at accepted ⊢
    rw [Xml.remaining_behind [] plain, conclude_silent formed.silent, behind r]
    simp only [behind]
    exact resized_parts (whole.symm.trans accepted)

def nextRun (text : List Char) : List Char := text.takeWhile fun c => c ≠ '<' ∧ c ≠ '&'

theorem isRun_nextRun (text : List Char) : IsRun (nextRun text) := fun c member => by
  simpa using List.all_eq_true.mp List.all_takeWhile c member

theorem breaks_nextRun (text : List Char) : ∃ rest, text = nextRun text ++ rest ∧ Breaks rest := by
  refine ⟨text.dropWhile fun c => c ≠ '<' ∧ c ≠ '&', List.takeWhile_append_dropWhile.symm, ?_⟩
  induction text with
  | nil => trivial
  | cons c text ih =>
    rw [List.dropWhile_cons]
    split
    · exact ih
    · rename_i stops
      simpa [Breaks, Classical.or_iff_not_imp_left] using stops

/-- A text ends with a run of character data, right behind markup. -/
structure LastRun (text : String) (nest : Nest) (front run : String) : Prop where
  whole : text = front ++ run
  stands : EndsAt front.toList nest
  plain : IsRun run.toList

theorem exists_lastRun {text : String} {nest : Nest} (ends : EndsIn text.toList nest) :
    ∃ front run, LastRun text nest front run := by
  obtain ⟨front, run, whole, plain, stands⟩ := ends.split
  refine ⟨spell front, spell run, ?_, ?_, ?_⟩
  · rw [← String.toList_inj, String.toList_append, spell, spell, String.toList_ofList,
      String.toList_ofList, whole]
  · rw [spell, String.toList_ofList]
    exact stands
  · rw [spell, String.toList_ofList]
    exact plain

/-- A comment or a processing instruction that is put between tags or between characters of
character data. Outside the size of a key it changes nothing. In the size of a key, with character
data on both sides, it leaves of an accepted document what that is without the data in front. -/
theorem read_remark {before remark : String} {nest : Nest} (stands : EndsIn before.toList nest)
    (formed : Remark remark.toList) (after : String) :
    (¬ InKeySize nest →
      Manifest.read (before ++ remark ++ after) = Manifest.read (before ++ after)) ∧
    (InKeySize nest → (∃ front run, LastRun before nest front run) ∧
      ∀ front run m, LastRun before nest front run → Manifest.read (before ++ after) = .ok m →
        Manifest.read (before ++ remark ++ after) =
          if AllBlank run.toList ∨ AllBlank (nextRun after.toList) then .ok m
          else match numeral? (Nat.pow 2 32) (trim isBlank run.toList) with
            | none => .error (.format (.badNumber "KeySize" (spell (trim isBlank run.toList))))
            | some _ => Manifest.read (front ++ after)) := by
  refine ⟨read_outside stands formed, fun inside => ⟨exists_lastRun stands, ?_⟩⟩
  rintro front run m ⟨rfl, behind, plain⟩ accepted
  obtain ⟨rest, parts, breaks⟩ := breaks_nextRun after.toList
  exact read_inside behind plain formed inside parts (isRun_nextRun _) breaks accepted

/-! ## A parted number -/

def sizedMethod : StartTag := tagWith "e:EncryptionMethod" [("Algorithm", "AES-CBC")]

def sizeTag : StartTag := tagWith "e:KeySize" []

/-- A record up to the size of its key. -/
def sizeFront : List Char :=
  decoyRoot.opening ++ decoyRecord.opening ++ sizedMethod.opening ++ sizeTag.opening

def sizeBack : List Char :=
  sizeTag.closing [] ++ sizedMethod.closing [] ++ decoyCipher "page.xhtml" ++
    decoyRecord.closing [] ++ decoyRoot.closing []

def sizeNest : Nest :=
  (spell sizeTag.name, sizeTag.scope (sizedMethod.scope (decoyRecord.scope (decoyRoot.scope [])))) ::
    (spell sizedMethod.name, sizedMethod.scope (decoyRecord.scope (decoyRoot.scope []))) ::
      decoyNest

def sizedRecord (size : UInt32) : Record :=
  { algorithm := some "AES-CBC", keySize := some size, uri := "page.xhtml" }

theorem endsAt_sizeFront : EndsAt (spell sizeFront).toList sizeNest := by
  have root : decoyRoot.NamespaceWellFormed :=
    wellFormed_tagWith (by decide) (by decide) (by decide +kernel)
  have method : sizedMethod.NamespaceWellFormed :=
    wellFormed_tagWith (by decide) (by decide) (by decide)
  have size : sizeTag.NamespaceWellFormed :=
    wellFormed_tagWith (by decide) (by decide) (by decide)
  rw [spell, String.toList_ofList]
  exact (((Xml.endsIn_nil.opening root).opening wellFormed_decoyRecord).opening method).opening_at
    size

theorem lastRun_sizeFront :
    LastRun (spell (sizeFront ++ "25".toList)) sizeNest (spell sizeFront) "25" where
  whole := by
    rw [spell_append]
    rfl
  stands := endsAt_sizeFront
  plain := by decide

theorem endsIn_sizeFront : EndsIn (spell (sizeFront ++ "25".toList)).toList sizeNest := by
  have digits : Xml.Content "25".toList :=
    .append (.char (by decide) (by decide)) (.char (c := '5') (by decide) (by decide))
  have front := endsAt_sizeFront
  rw [spell, String.toList_ofList] at front ⊢
  exact front.endsIn.content (fun _ => rfl) digits

theorem remark_x : Remark "<!-- x -->".toList := by
  have inside : ¬ "-->".toList <:+: " x ".toList := by decide
  exact .comment inside

theorem read_spell (text : List Char) : Manifest.read (spell text) =
    Progress.conclude {} (Cursor.start.remaining (Xml.unmarked text)) := by
  rw [read_eq_conclude, Xml.events_eq_remaining, spell, String.toList_ofList]

theorem read_whole_size :
    Manifest.read (spell (sizeFront ++ "25".toList) ++ spell ("6".toList ++ sizeBack)) =
      .ok [sizedRecord 256] := by
  have text : sizeFront ++ "25".toList ++ ("6".toList ++ sizeBack) =
      sizeFront ++ "256".toList ++ sizeBack := by
    simp only [List.append_assoc]
    rfl
  apply ok_of_toOption
  rw [← spell_append, text, read_spell]
  decide +kernel

theorem read_parted_size :
    Manifest.read (spell (sizeFront ++ "25<!-- x -->6".toList ++ sizeBack)) =
      .ok [sizedRecord 6] := by
  apply ok_of_toOption
  rw [read_spell]
  decide +kernel

theorem parted_size_misread :
    EndsIn (spell (sizeFront ++ "25".toList)).toList sizeNest ∧ Remark "<!-- x -->".toList ∧
      Manifest.read (spell (sizeFront ++ "25".toList) ++ spell ("6".toList ++ sizeBack)) =
        .ok [sizedRecord 256] ∧
      Manifest.read (spell (sizeFront ++ "25".toList) ++ "<!-- x -->" ++
        spell ("6".toList ++ sizeBack)) = .ok [sizedRecord 6] := by
  refine ⟨endsIn_sizeFront, remark_x, read_whole_size, ?_⟩
  have remark : "<!-- x -->" = spell "<!-- x -->".toList := String.ofList_toList.symm
  rw [← read_parted_size, remark, ← spell_append, ← spell_append]
  simp only [List.append_assoc]
  rfl

/-- The same document reads as without the first digits; a comment in front of its cipher reference
would change nothing. -/
theorem read_remark_parted_size :
    InKeySize sizeNest ∧
      Manifest.read (spell (sizeFront ++ "25".toList) ++ "<!-- x -->" ++
        spell ("6".toList ++ sizeBack)) =
          Manifest.read (spell sizeFront ++ spell ("6".toList ++ sizeBack)) ∧
      ¬ InKeySize decoyNest ∧
      Manifest.read (decoyFront ++ "<!-- x -->" ++ decoyBack) =
        Manifest.read (decoyFront ++ decoyBack) := by
  have inside : InKeySize sizeNest := by decide
  have outside : ¬ InKeySize decoyNest := by decide
  have solid : ¬ (AllBlank "25".toList ∨
      AllBlank (nextRun (spell ("6".toList ++ sizeBack)).toList)) := by
    have text : (spell ("6".toList ++ sizeBack)).toList = '6' :: sizeBack := String.toList_ofList
    have six : nextRun ('6' :: sizeBack) = '6' :: nextRun sizeBack :=
      List.takeWhile_cons_of_pos (by decide)
    rintro (blank | blank)
    · exact absurd (blank '2' (by decide)) (by decide)
    · rw [text, six] at blank
      exact absurd (blank '6' List.mem_cons_self) (by decide)
  have parted := ((read_remark endsIn_sizeFront remark_x _).2 inside).2 _ _ _ lastRun_sizeFront
    read_whole_size
  have number : numeral? (Nat.pow 2 32) (trim isBlank "25".toList) = some 25 := by decide +kernel
  rw [if_neg solid, number] at parted
  exact ⟨inside, parted, outside, (read_remark endsIn_decoyFront remark_x _).1 outside⟩

end Bindery.Encryption
