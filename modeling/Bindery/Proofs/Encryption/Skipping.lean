import Bindery.Proofs.Encryption.Nesting
import Bindery.Proofs.Xml.Grammar

/-! Elements that are not modelled. The elements open in a document tell what the reader takes the
next one for, and below one that is not modelled it takes nothing for anything else. So a manifest
reads the same with and without such an element, unless it stands in the size of a key, whose text
it would take apart. -/
namespace Bindery.Encryption

open Xml (Cursor Event Forest Nest Node StartTag Token)

/-! ## What an element in a record is -/

/-- What an element in a record is, by its name and the elements open around it. -/
def Part.child (path : List Part) (space : Option String) (label : String) : Part :=
  let enc := space = some encryptionSpace
  let sig := space = some signatureSpace
  match path with
  | [] =>
    if enc ∧ label = "EncryptionMethod" then .method
    else if sig ∧ label = "KeyInfo" then .keyInfo
    else if enc ∧ label = "CipherData" then .cipherData
    else if enc ∧ label = "EncryptionProperties" then .properties
    else .skipped
  | .method :: _ => if label = "KeySize" then .keySize else .skipped
  | .keyInfo :: _ => if sig ∧ label = "RetrievalMethod" then .retrieval else .skipped
  | .cipherData :: _ => if enc ∧ label = "CipherReference" then .cipherReference else .skipped
  | .properties :: _ => if enc ∧ label = "EncryptionProperty" then .property else .skipped
  | .property :: _ =>
    if space = some compressionSpace ∧ label = "Compression" then .compression else .skipped
  | _ => .skipped

/-- An element that begins, if it can, is the given part. -/
def Begins (entered : Result (Record × Part)) (part : Part) : Prop :=
  ∀ r begun, entered = .ok (r, begun) → begun = part

theorem begins_ok (r : Record) (part : Part) : Begins (.ok (r, part)) part := by
  rintro _ _ ⟨⟩
  rfl

theorem begins_bind {α : Type} {first : Result α} {next : α → Result (Record × Part)} {part : Part}
    (begins : ∀ a, Begins (next a) part) : Begins (first >>= next) part := by
  intro r begun entered
  obtain ⟨a, _, entered⟩ := ok_of_bind entered
  exact begins a r begun entered

theorem begins_ite {c : Prop} [Decidable c] {first second : Result (Record × Part)} {a b : Part}
    (one : Begins first a) (other : Begins second b) :
    Begins (if c then first else second) (if c then a else b) := by
  split
  · exact one
  · exact other

/-- What an element is depends on its name alone; its attributes can only make the reader fail. -/
theorem begins_enter (r : Record) (path : List Part) (space : Option String) (label : String)
    (tag : Xml.Tag) : Begins (r.enter path space label tag) (Part.child path space label) := by
  have skipped := begins_ok r .skipped
  cases path with
  | nil =>
    exact begins_ite (begins_bind fun _ => begins_ok _ _) <|
      begins_ite (begins_bind fun _ => begins_ok _ _) <|
      begins_ite (begins_ok _ _) <| begins_ite (begins_ok _ _) skipped
  | cons part path =>
    cases part with
    | method => exact begins_ite (begins_ok _ _) skipped
    | keyInfo =>
      exact begins_ite (begins_bind fun _ => begins_bind fun _ => begins_ok _ _) skipped
    | cipherData => exact begins_ite (begins_bind fun _ => begins_ok _ _) skipped
    | properties => exact begins_ite (begins_ok _ _) skipped
    | property => exact begins_ite (begins_bind fun _ => begins_ok _ _) skipped
    | _ => exact skipped

theorem not_of_ite {c : Prop} [Decidable c] {a b : Part}
    (same : (if c then a else b) = .skipped) (modelled : a ≠ .skipped) : ¬ c ∧ b = .skipped := by
  split at same
  · exact absurd same modelled
  · exact ⟨‹_›, same⟩

theorem enter_skipped {path : List Part} {space : Option String} {label : String}
    (unmodelled : Part.child path space label = .skipped) (r : Record) (tag : Xml.Tag) :
    r.enter path space label tag = .ok (r, .skipped) := by
  cases path with
  | nil =>
    obtain ⟨noMethod, unmodelled⟩ := not_of_ite unmodelled (by decide)
    obtain ⟨noKey, unmodelled⟩ := not_of_ite unmodelled (by decide)
    obtain ⟨noCipher, unmodelled⟩ := not_of_ite unmodelled (by decide)
    obtain ⟨noProperties, -⟩ := not_of_ite unmodelled (by decide)
    simp only [Record.enter, if_neg noMethod, if_neg noKey, if_neg noCipher, if_neg noProperties]
  | cons part path =>
    cases part with
    | method => exact if_neg (not_of_ite unmodelled (by decide)).1
    | keyInfo => exact if_neg (not_of_ite unmodelled (by decide)).1
    | cipherData => exact if_neg (not_of_ite unmodelled (by decide)).1
    | properties => exact if_neg (not_of_ite unmodelled (by decide)).1
    | property => exact if_neg (not_of_ite unmodelled (by decide)).1
    | _ => rfl

theorem absorbAll_skipped : (nodes : List Node) → (path : List Part) → (r : Record) →
    Record.absorbAll (.skipped :: path) r nodes = .ok r
  | [], _, _ => rfl
  | .text _ :: rest, path, r => absorbAll_skipped rest path r
  | .element _ _ _ inside :: rest, path, r => by
    have passed := absorbAll_skipped inside (.skipped :: path) r
    rw [Record.absorbAll, Record.absorb, enter_skipped rfl]
    exact (bind_of_eq_ok passed _).trans (absorbAll_skipped rest path r)

theorem absorb_unmodelled {path : List Part} {space : Option String} {label : String}
    (unmodelled : Part.child path space label = .skipped) (r : Record) (tag : Xml.Tag)
    (inside : Forest) : r.absorb path (.element space label tag inside) = .ok r := by
  rw [Record.absorb, enter_skipped unmodelled]
  exact absorbAll_skipped inside path r

theorem absorbAll_append (path : List Part) (r : Record) (first second : Forest) :
    r.absorbAll path (first ++ second) =
      r.absorbAll path first >>= fun r' => r'.absorbAll path second := by
  induction first generalizing r with
  | nil => rfl
  | cons node first ih =>
    rw [List.cons_append, Record.absorbAll, Record.absorbAll]
    cases r.absorb path node with
    | error e => rfl
    | ok r' => exact ih r'

theorem absorb_text {path : List Part} (noSize : path.head? ≠ some .keySize) (r : Record)
    (content : List Char) : r.absorb path (.text content) = .ok r := by
  cases path with
  | nil => rfl
  | cons part path =>
    cases part with
    | keySize => exact absurd rfl noSize
    | _ => rfl

theorem absorbAll_texts {path : List Part} (noSize : path.head? ≠ some .keySize) (r : Record)
    (texts : List (List Char)) : r.absorbAll path (texts.map .text) = .ok r := by
  induction texts with
  | nil => rfl
  | cons content texts ih =>
    rw [List.map_cons, Record.absorbAll, absorb_text noSize]
    exact ih

/-! ## Open elements and the reader's position -/

def enterPath (path? : Option (List Part)) (space : Option String) (label : String) :
    Option (List Part) :=
  match path? with
  | some path => some (Part.child path space label :: path)
  | none => if IsRecord space label then some [] else none

def leavePath : Option (List Part) → Option (List Part)
  | some (_ :: path) => some path
  | _ => none

@[simp] theorem leavePath_enterPath (path? : Option (List Part)) (space : Option String)
    (label : String) : leavePath (enterPath path? space label) = path? := by
  cases path? with
  | some path => rfl
  | none =>
    simp only [enterPath]
    split <;> rfl

/-- The elements open in the record in which a place of a document stands, innermost first. A
record in another one is not a record but an element of that one. -/
def openPath? : Nest → Option (List Part)
  | [] => none
  | (name, scope) :: outer =>
    enterPath (openPath? outer) (scope.resolve name).1 (scope.resolve name).2

def Progress.path? (p : Progress) : Option (List Part) :=
  match p.position with
  | .inside _ path => some path
  | _ => none

theorem path_of_start {p q : Progress} {space : Option String} {label : String} {tag : Xml.Tag}
    (ran : p.step (.start space label tag) = .ok q) : q.path? = enterPath p.path? space label := by
  obtain ⟨position, records⟩ := p
  cases position with
  | start =>
    simp only [Progress.step] at ran
    split at ran
    · rename_i root
      cases ran
      have other : ¬ IsRecord space label := by
        rintro ⟨-, record⟩
        exact absurd (root.2.symm.trans record) (by decide)
      exact (if_neg other).symm
    · cases ran
  | between =>
    simp only [Progress.step] at ran
    split at ran
    · rename_i record
      obtain ⟨r, _, ran⟩ := ok_of_bind ran
      cases ran
      exact (if_pos record).symm
    · rename_i other
      cases ran
      exact (if_neg other).symm
  | inside r path =>
    obtain ⟨⟨r', part⟩, entered, ran⟩ := ok_of_bind ran
    cases ran
    have named := begins_enter r path space label tag r' part entered
    exact congrArg (fun part => some (part :: path)) named

theorem path_of_stop {p q : Progress} (ran : p.step .stop = .ok q) :
    q.path? = leavePath p.path? := by
  obtain ⟨position, records⟩ := p
  cases position with
  | inside r path => cases path <;> cases ran <;> rfl
  | _ => cases ran; rfl

theorem path_of_text {p q : Progress} {content : List Char} (ran : p.step (.text content) = .ok q) :
    q.path? = p.path? := by
  obtain ⟨position, records⟩ := p
  cases position with
  | inside r path =>
    rw [step_text_inside] at ran
    obtain ⟨r', _, rfl⟩ := ok_of_map ran
    rfl
  | _ => cases ran; rfl

/-- The events of a token take the reader where the open elements behind it say. -/
theorem path_of_token {nest behind : Nest} {token : Token} {found : List Event} {p q : Progress}
    (stepped : nest.step token = .ok (behind, found)) (ran : p.after found = .ok q)
    (agrees : openPath? nest = p.path?) : openPath? behind = q.path? := by
  have begun {scope : Xml.Scope} {tag : Xml.Tag} {p' : Progress}
      (start : p.step (scope.start tag) = .ok p') :
      openPath? ((tag.name, scope) :: nest) = p'.path? := by
    rw [path_of_start start, ← agrees]
    rfl
  cases token with
  | text content =>
    cases stepped
    obtain ⟨q', step, same⟩ := ok_of_bind ran
    cases same
    exact agrees.trans (path_of_text step).symm
  | opening tag =>
    obtain ⟨scope, _, stepped⟩ := ok_of_bind stepped
    cases stepped
    obtain ⟨q', step, same⟩ := ok_of_bind ran
    cases same
    exact begun step
  | empty tag =>
    obtain ⟨scope, _, stepped⟩ := ok_of_bind stepped
    cases stepped
    obtain ⟨p', start, ran⟩ := ok_of_bind ran
    obtain ⟨q', stop, same⟩ := ok_of_bind ran
    cases same
    rw [path_of_stop stop, ← begun start, openPath?, leavePath_enterPath]
  | closing name =>
    cases nest with
    | nil => cases stepped
    | cons innermost outer =>
      obtain ⟨opened, scope⟩ := innermost
      simp only [Nest.step] at stepped
      split at stepped
      · cases stepped
        obtain ⟨q', stop, same⟩ := ok_of_bind ran
        cases same
        rw [path_of_stop stop, ← agrees, openPath?, leavePath_enterPath]
      · cases stepped

/-- Behind any part of a document that it accepts, the reader is where the open elements say. -/
theorem path_of_reads {here there : Cursor} {part : List Char} {found : List Event}
    {p q : Progress} (reads : here.Reads part found there) (ran : p.after found = .ok q)
    (agrees : openPath? here.nest = p.path?) : openPath? there.nest = q.path? := by
  induction part generalizing here found p with
  | nil =>
    cases reads
    cases ran
    exact agrees
  | cons c part ih =>
    obtain ⟨next, first, later, step, behind, rfl⟩ := reads.exists_of_cons
    rw [after_append] at ran
    obtain ⟨p', start, ran⟩ := ok_of_bind ran
    refine ih behind ran ?_
    obtain ⟨place, nest⟩ := here
    simp only [Cursor.step] at step
    split at step
    · cases step
    · cases step
      cases start
      exact agrees
    · split at step
      · cases step
      · rename_i stepped
        cases step
        exact path_of_token stepped start agrees

/-! ## A document with and without an element -/

def Progress.conclude (p : Progress) (rest : List Event × Option MarkupFault) :
    Result Manifest := do
  let q ← p.after rest.1
  match rest.2 with
  | some fault => .error (.format (.markup fault))
  | none => q.finish

theorem read_eq_conclude (text : String) :
    Manifest.read text = Progress.conclude {} (Xml.events text) := rfl

theorem conclude_append (p : Progress) (found behind : List Event) (fault : Option MarkupFault) :
    p.conclude (found ++ behind, fault) =
      p.after found >>= fun q => q.conclude (behind, fault) := by
  simp only [Progress.conclude, after_append]
  cases p.after found <;> rfl

/-- Behind a part of a document the reader goes on from where it stands, if it has come so far. -/
theorem conclude_reads {here there : Cursor} {part : List Char} {found : List Event}
    (reads : here.Reads part found there) (p : Progress) (rest : List Char) :
    p.conclude (here.remaining (part ++ rest)) =
      p.after found >>= fun q => q.conclude (there.remaining rest) := by
  rw [reads.remaining, conclude_append]

def Progress.Deaf (p : Progress) : Prop := ∀ content, p.step (.text content) = .ok p

theorem deaf_of_path {p : Progress} (noSize : p.path?.bind List.head? ≠ some .keySize) :
    p.Deaf := by
  obtain ⟨position, records⟩ := p
  intro content
  cases position with
  | inside r path =>
    rw [step_text_inside, absorb_text noSize]
    rfl
  | _ => rfl

theorem Progress.Deaf.conclude {p : Progress} (deaf : p.Deaf) (texts : List (List Char))
    (behind : List Event) (fault : Option MarkupFault) :
    p.conclude (Forest.events (texts.map .text) ++ behind, fault) = p.conclude (behind, fault) := by
  induction texts with
  | nil => rfl
  | cons content texts ih =>
    have first : p.after [.text content] = .ok p := by
      rw [after_cons, deaf content]
      rfl
    rw [List.map_cons, Forest.events, Node.events, List.append_assoc, conclude_append, first]
    exact ih

theorem Progress.Deaf.content {p : Progress} (deaf : p.Deaf) (nest : Nest)
    (first second rest : List Char) :
    p.conclude (Cursor.remaining ⟨.content first, nest⟩ rest) =
      p.conclude (Cursor.remaining ⟨.content second, nest⟩ rest) := by
  obtain ⟨behind, fault, made⟩ := Xml.remaining_content nest rest
  have drop (data : List Char) : p.conclude (Cursor.remaining ⟨.content data, nest⟩ rest) =
      p.conclude (behind, fault) := by
    obtain ⟨texts, same⟩ := made data
    rw [same]
    exact deaf.conclude texts behind fault
  rw [drop first, drop second]

/-- A byte order mark at the start says nothing, no more than other character data there. -/
theorem conclude_unmarked (text : List Char) :
    Progress.conclude {} (Cursor.start.remaining (Xml.unmarked text)) =
      Progress.conclude {} (Cursor.start.remaining text) := by
  cases text with
  | nil => rfl
  | cons c text =>
    by_cases mark : c = '\ufeff'
    · subst mark
      have step : Cursor.start.step '\ufeff' = .ok (⟨.content ['\ufeff'], []⟩, []) := rfl
      have deaf : Progress.Deaf {} := fun _ => rfl
      rw [Xml.remaining_of_step step]
      exact deaf.content [] [] ['\ufeff'] text
    · simp [Xml.unmarked, mark]

theorem read_append (before rest : String) : Manifest.read (before ++ rest) =
    Progress.conclude {} (Cursor.start.remaining (Xml.unmarked before.toList ++ rest.toList)) := by
  rw [read_eq_conclude, Xml.events_eq_remaining, String.toList_append]
  by_cases none : before.toList = []
  · rw [none]
    exact conclude_unmarked rest.toList
  · rw [Xml.unmarked_append fun empty => absurd empty none]

theorem read_reads {before : String} {found : List Xml.Event} {there : Cursor}
    (reads : Cursor.start.Reads (Xml.unmarked before.toList) found there) (rest : String) :
    Manifest.read (before ++ rest) =
      Progress.after {} found >>= fun p => p.conclude (there.remaining rest.toList) := by
  rw [read_append, conclude_reads reads]

section Inside

variable {r : Record} {path : List Part} {records : List Record} {nest : Nest}

theorem conclude_nodes {nodes : Forest} (absorbed : r.absorbAll path nodes = .ok r)
    (behind : List Event) (fault : Option MarkupFault) :
    Progress.conclude ⟨.inside r path, records⟩ (Forest.events nodes ++ behind, fault) =
      Progress.conclude ⟨.inside r path, records⟩ (behind, fault) := by
  rw [conclude_append, after_forest_inside, absorbed]
  rfl

/-- From inside a record, the rest of a document reads the same with and without an element that is
not modelled in front of it. -/
theorem conclude_element (noSize : path.head? ≠ some .keySize) {t : StartTag}
    {element : List Char} (formed : t.Element element)
    (unmodelled : Part.child path (t.resolved nest.scope).1 (t.resolved nest.scope).2 = .skipped)
    (data rest : List Char) :
    Progress.conclude ⟨.inside r path, records⟩
        (Cursor.remaining ⟨.content data, nest⟩ (element ++ rest)) =
      Progress.conclude ⟨.inside r path, records⟩
        (Cursor.remaining ⟨.content data, nest⟩ rest) := by
  obtain ⟨nodes, reads⟩ := formed.reads nest data
  have absorbed : r.absorbAll path (Xml.heldText data ++ [t.node nest.scope nodes]) = .ok r := by
    obtain ⟨texts, held⟩ := Xml.heldText_eq data
    rw [held, absorbAll_append, absorbAll_texts noSize]
    change r.absorbAll path [t.node nest.scope nodes] = .ok r
    rw [Record.absorbAll, StartTag.node, absorb_unmodelled unmodelled]
    rfl
  rw [reads.remaining, conclude_nodes absorbed]
  have deaf : Progress.Deaf ⟨.inside r path, records⟩ := deaf_of_path noSize
  exact deaf.content nest [] data rest

end Inside

/-- Wherever in a record an element may stand that is not modelled there, the document reads the
same with and without it, or is refused with the same error. Only the text of a key size is read,
and the element may not stand in one. -/
theorem read_unmodelled {before element after : String} {nest : Nest} {path : List Part}
    {t : StartTag} (stands : Xml.EndsIn before.toList nest) (inside : openPath? nest = some path)
    (noSize : path.head? ≠ some .keySize) (formed : t.Element element.toList)
    (unmodelled : Part.child path (t.resolved nest.scope).1 (t.resolved nest.scope).2 = .skipped) :
    Manifest.read (before ++ element ++ after) = Manifest.read (before ++ after) := by
  obtain ⟨found, data, reads⟩ := stands
  -- No record is open in front of the first character, so a byte order mark stands before.
  have begun : before.toList ≠ [] := by
    intro none
    rw [none] at reads
    cases reads
    cases inside
  have split (rest : List Char) : Xml.unmarked (before.toList ++ rest) =
      Xml.unmarked before.toList ++ rest := Xml.unmarked_append fun none => absurd none begun
  simp only [read_eq_conclude, Xml.events_eq_remaining, String.toList_append, List.append_assoc,
    split, conclude_reads reads]
  cases ran : Progress.after {} found with
  | error e => rfl
  | ok p =>
    have stands : some path = p.path? := inside ▸ path_of_reads reads ran rfl
    obtain ⟨position, records⟩ := p
    cases position with
    | inside r open' =>
      obtain rfl : path = open' := Option.some.inj stands
      exact conclude_element noSize formed unmodelled data after.toList
    | _ => cases stands

/-! ## A decoy in a record -/

def tagWith (name : String) (values : List (String × String)) : StartTag where
  name := name.toList
  attributes := values.map fun value => ⟨[' '], value.1.toList, [], [], '\'', value.2.toList⟩
  gap := []

theorem wellFormed_tagWith {name : String} {values : List (String × String)}
    (named : Xml.IsName name.toList)
    (plain : ∀ value ∈ values, Xml.IsName value.1.toList ∧ '\'' ∉ value.2.toList)
    (reserved : ∀ b ∈ (tagWith name values).declared, b.allowed = true) :
    (tagWith name values).NamespaceWellFormed := by
  have blank : Xml.AllBlank [] := by decide
  have gap : Xml.AllBlank [' '] := by decide
  refine ⟨⟨named, ?_, blank⟩, reserved⟩
  intro a member
  obtain ⟨value, listed, rfl⟩ := List.mem_map.mp member
  obtain ⟨key, unquoted⟩ := plain value listed
  exact ⟨List.cons_ne_nil _ _, gap, key, blank, blank, .inr rfl, unquoted⟩

def decoyRoot : StartTag :=
  tagWith "encryption" [("xmlns", containerSpace), ("xmlns:e", encryptionSpace)]

def decoyRecord : StartTag := tagWith "e:EncryptedData" []

def decoyData : StartTag := tagWith "e:CipherData" []

def decoyReference (uri : String) : StartTag := tagWith "e:CipherReference" [("URI", uri)]

def decoyCipher (uri : String) : List Char :=
  decoyData.opening ++ ((decoyReference uri).empty ++ decoyData.closing [])

def decoyFront : String := spell (decoyRoot.opening ++ decoyRecord.opening)

/-- A record in an element `<note>`, which is not modelled. -/
def decoy : String :=
  spell ((tagWith "note" []).opening ++
    (decoyRecord.opening ++ decoyCipher "b" ++ decoyRecord.closing []) ++
      (tagWith "note" []).closing [])

/-- The cipher reference of the record that is open, and the ends of the record and the root. -/
def decoyBack : String :=
  spell (decoyCipher "a" ++ decoyRecord.closing [] ++ decoyRoot.closing [])

theorem wellFormed_decoyRecord : decoyRecord.NamespaceWellFormed :=
  wellFormed_tagWith (by decide) (by decide) (by decide)

def decoyNest : Nest :=
  [(spell decoyRecord.name, decoyRecord.scope (decoyRoot.scope [])),
    (spell decoyRoot.name, decoyRoot.scope [])]

theorem endsIn_decoyFront : Xml.EndsIn decoyFront.toList decoyNest := by
  have root : decoyRoot.NamespaceWellFormed :=
    wellFormed_tagWith (by decide) (by decide) (by decide +kernel)
  rw [decoyFront, spell, String.toList_ofList]
  exact (Xml.endsIn_nil.opening root).opening wellFormed_decoyRecord

theorem element_decoy : (tagWith "note" []).Element decoy.toList := by
  have note : (tagWith "note" []).NamespaceWellFormed :=
    wellFormed_tagWith (by decide) (by decide) (by decide)
  have data : decoyData.NamespaceWellFormed :=
    wellFormed_tagWith (by decide) (by decide) (by decide)
  have reference : (decoyReference "b").NamespaceWellFormed :=
    wellFormed_tagWith (by decide) (by decide) (by decide)
  have blank : Xml.AllBlank [] := by decide
  have inside := Xml.Content.element data (.empty reference) blank
  rw [decoy, spell, String.toList_ofList]
  exact .filled note (.element wellFormed_decoyRecord inside blank) blank

theorem read_decoyless :
    (Manifest.read (decoyFront ++ decoyBack)).toOption = some [{ uri := "a" }] := by
  rw [read_eq_conclude, Xml.events_eq_remaining, String.toList_append, decoyFront, decoyBack,
    spell, spell, String.toList_ofList, String.toList_ofList]
  decide +kernel

theorem read_unmodelled_decoy :
    openPath? decoyNest = some [] ∧
      Manifest.read (decoyFront ++ decoy ++ decoyBack) = Manifest.read (decoyFront ++ decoyBack) ∧
      (Manifest.read (decoyFront ++ decoyBack)).toOption = some [{ uri := "a" }] := by
  have inRecord : openPath? decoyNest = some [] := by decide
  refine ⟨inRecord, ?_, read_decoyless⟩
  exact read_unmodelled endsIn_decoyFront inRecord (by decide) element_decoy (by decide)

end Bindery.Encryption
