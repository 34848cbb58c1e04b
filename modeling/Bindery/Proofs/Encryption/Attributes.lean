import Bindery.Proofs.Encryption.Alike
import Bindery.Proofs.Encryption.Refusal
import Bindery.Proofs.Xml.Reordering

/-! Attributes of the elements that a manifest is made of. A record reads all attributes of its tag,
and any other element only those up to the last one that it asks for. So a name that occurs twice is
a fault of the document in these, and behind them nothing at all. Where no name occurs twice the
order of attributes makes no difference. -/
namespace Bindery.Encryption

open Xml (BeginsElement Cursor EndsIn Event Nest Reordered Scope Tag startTag)

/-! ## What an element asks for -/

def Part.asked : Part → List String
  | .method => ["Algorithm"]
  | .keyInfo => ["KeyName"]
  | .retrieval => ["URI", "Type"]
  | .cipherReference => ["URI"]
  | .compression => ["Method", "OriginalLength"]
  | _ => []

section Asked

variable {r : Record} {path : List Part} {space : Option String} {label : String}

theorem ite_eq_ite_of_part {α : Type} {holds : Part → Prop} {c : Prop} [Decidable c] {a b : Part}
    {first first' second second' : α} (of : holds (if c then a else b))
    (one : holds a → first = first') (other : holds b → second = second') :
    (if c then first else second) = if c then first' else second' := by
  by_cases h : c
  · rw [if_pos h] at of
    rw [if_pos h, if_pos h, one of]
  · rw [if_neg h] at of
    rw [if_neg h, if_neg h, other of]

theorem part_of_ite_eq {α : Type} {holds : Part → Prop} {c : Prop} [Decidable c] {a b : Part}
    {first second made : α} (same : (if c then first else second) = made)
    (one : first = made → holds a) (other : second = made → holds b) :
    holds (if c then a else b) := by
  by_cases h : c
  · rw [if_pos h] at same ⊢
    exact one same
  · rw [if_neg h] at same ⊢
    exact other same

def AnswerAlike (first second : Tag) (part : Part) : Prop :=
  ∀ name ∈ part.asked, Xml.value? first.attributes name = Xml.value? second.attributes name

theorem enter_eq_of_asked {first second : Tag}
    (same : AnswerAlike first second (Part.child path space label)) :
    r.enter path space label first = r.enter path space label second := by
  have one {name : String} {next : Option String → Result (Record × Part)}
      (value : Xml.value? first.attributes name = Xml.value? second.attributes name) :
      (Xml.value? first.attributes name >>= next) =
        (Xml.value? second.attributes name >>= next) := by
    rw [value]
  cases path with
  | nil =>
    refine ite_eq_ite_of_part same (fun method => one (method _ (by decide))) fun same => ?_
    refine ite_eq_ite_of_part same (fun key => one (key _ (by decide))) fun same => ?_
    exact ite_eq_ite_of_part same (fun _ => rfl) fun _ => rfl
  | cons part path =>
    cases part with
    | keyInfo =>
      refine ite_eq_ite_of_part same (fun retrieval => ?_) fun _ => rfl
      rw [retrieval "URI" (by decide), retrieval "Type" (by decide)]
    | cipherData =>
      exact ite_eq_ite_of_part same (fun reference => one (reference _ (by decide))) fun _ => rfl
    | property =>
      refine ite_eq_ite_of_part same (fun compression => ?_) fun _ => rfl
      simp only [Compression.ofTag, compression "Method" (by decide),
        compression "OriginalLength" (by decide)]
    | _ => rfl

def Answers (tag : Tag) (part : Part) : Prop :=
  ∀ name ∈ part.asked, ∃ value, Xml.value? tag.attributes name = .ok value

section Answers

variable {tag : Tag} {part : Part} {name other : String}

theorem answers_of_nil (asked : part.asked = []) : Answers tag part := by
  intro name listed
  rw [asked] at listed
  cases listed

theorem answers_of_singleton {α : Type} {next : Option String → Result α} {made : α}
    (asked : part.asked = [name])
    (ran : (Xml.value? tag.attributes name >>= next) = .ok made) : Answers tag part := by
  obtain ⟨value, found, -⟩ := ok_of_bind ran
  unfold Answers
  rw [asked]
  exact List.forall_mem_singleton.mpr ⟨value, found⟩

theorem answers_of_pair {α : Type} {next : Option String → Option String → Result α} {made : α}
    (asked : part.asked = [name, other])
    (ran : (do
      let first ← Xml.value? tag.attributes name
      let second ← Xml.value? tag.attributes other
      next first second) = .ok made) : Answers tag part := by
  obtain ⟨first, found, ran⟩ := ok_of_bind ran
  obtain ⟨second, found', -⟩ := ok_of_bind ran
  unfold Answers
  rw [asked]
  exact List.forall_mem_cons.mpr ⟨⟨first, found⟩, List.forall_mem_singleton.mpr ⟨second, found'⟩⟩

end Answers

/-- An element that begins has found whatever it asked for, or that there is none. -/
theorem answers_of_enter {tag : Tag} {begun : Record × Part}
    (entered : r.enter path space label tag = .ok begun) :
    Answers tag (Part.child path space label) := by
  have nothing {part : Part} (asked : part.asked = []) {made : Prop} : made → Answers tag part :=
    fun _ => answers_of_nil asked
  cases path with
  | nil =>
    refine part_of_ite_eq entered (answers_of_singleton rfl) fun entered => ?_
    refine part_of_ite_eq entered (answers_of_singleton rfl) fun entered => ?_
    refine part_of_ite_eq entered (nothing rfl) fun entered => ?_
    exact part_of_ite_eq entered (nothing rfl) (nothing rfl)
  | cons part path =>
    cases part with
    | method => exact part_of_ite_eq entered (nothing rfl) (nothing rfl)
    | keyInfo => exact part_of_ite_eq entered (answers_of_pair rfl) (nothing rfl)
    | cipherData => exact part_of_ite_eq entered (answers_of_singleton rfl) (nothing rfl)
    | properties => exact part_of_ite_eq entered (nothing rfl) (nothing rfl)
    | property =>
      refine part_of_ite_eq entered (fun made => ?_) (nothing rfl)
      obtain ⟨_, made, -⟩ := ok_of_bind made
      exact answers_of_pair rfl made
    | _ => exact answers_of_nil rfl

end Asked

/-- The attributes of an element that the reader looks at, and the fault behind them if it comes so
far. The element is told by the path of those around it. -/
def lookedAt (path? : Option (List Part)) (space : Option String) (label : String) (tag : Tag) :
    List Xml.Attribute × Option AttributeFault :=
  match path? with
  | some path => tag.upTo (Part.child path space label).asked
  | none => if IsRecord space label then Xml.attributes tag.attributes else ([], none)

theorem step_eq_of_lookedAt {p : Progress} {space : Option String} {label : String}
    {first second : Tag} (name : first.name = second.name)
    (same : lookedAt p.path? space label first = lookedAt p.path? space label second) :
    p.step (.start space label first) = p.step (.start space label second) := by
  obtain ⟨position, records⟩ := p
  cases position with
  | start => simp only [Progress.step, name]
  | between =>
    simp only [Progress.step]
    split
    · rename_i record
      have record : IsRecord space label := record
      simp only [lookedAt, Progress.path?, if_pos record] at same
      simp only [Record.ofTag, Xml.values, same]
    · rfl
  | inside r path =>
    have alike : AnswerAlike first second (Part.child path space label) := fun _ listed =>
      Xml.value_eq_of_upTo same listed
    simp only [Progress.step, enter_eq_of_asked alike]

theorem nodup_lookedAt {p q : Progress} {space : Option String} {label : String} {tag : Tag}
    (ran : p.step (.start space label tag) = .ok q) :
    ((lookedAt p.path? space label tag).1.map Xml.Attribute.name).Nodup := by
  obtain ⟨position, records⟩ := p
  cases position with
  | start =>
    by_cases record : IsRecord space label
    · have other : ¬ (space = some containerSpace ∧ label = "encryption") := by
        rintro ⟨-, root⟩
        exact absurd (record.2.symm.trans root) (by decide)
      simp only [Progress.step, if_neg other] at ran
      cases ran
    · simp [lookedAt, Progress.path?, if_neg record]
  | between =>
    by_cases record : IsRecord space label
    · have named : space = some encryptionSpace ∧ label = "EncryptedData" := record
      simp only [Progress.step, if_pos named] at ran
      obtain ⟨r, made, -⟩ := ok_of_bind ran
      obtain ⟨values, reads, -⟩ := ok_of_bind made
      simp only [lookedAt, Progress.path?, if_pos record]
      exact Xml.fresh_nil_iff.mp (Xml.fresh_of_valuesFrom reads)
    · simp [lookedAt, Progress.path?, if_neg record]
  | inside r path =>
    obtain ⟨begun, entered, -⟩ := ok_of_bind ran
    exact Xml.nodup_of_values (answers_of_enter entered)

/-! ## A document with one of its tags -/

def tagText (inside : List Char) : String := "<" ++ spell inside ++ ">"

/-- The attributes that the reader looks at in a tag that stands inside the elements of `nest`. -/
def lookedAtIn (nest : Nest) (inside : List Char) : List Xml.Attribute × Option AttributeFault :=
  let resolved := (startTag inside).resolved nest.scope
  lookedAt (openPath? nest) resolved.1 resolved.2 (startTag inside)

theorem conclude_tag {inside : List Char} (begins : BeginsElement inside) (nest : Nest)
    (p : Progress) (rest : List Char) :
    p.conclude (Cursor.remaining ⟨.markup, nest⟩ (inside ++ '>' :: rest)) =
      match nest.scope.enter (startTag inside) with
      | .error fault => .error (.format (.markup fault))
      | .ok scope =>
        p.step (scope.start (startTag inside)) >>= fun q =>
          let behind := Cursor.remaining ⟨.content [], nest.behind inside scope⟩ rest
          q.conclude (Xml.tagEnd inside ++ behind.1, behind.2) := by
  rw [begins.remaining]
  cases nest.scope.enter (startTag inside) with
  | error fault => rfl
  | ok scope =>
    simp only [Progress.conclude, List.cons_append, after_cons]
    cases p.step (scope.start (startTag inside)) <;> rfl

theorem read_tag {before : String} {nest : Nest} (stands : EndsIn before.toList nest) :
    ∃ front : Result Progress, (∀ p, front = .ok p → openPath? nest = p.path?) ∧
      ∀ inside after, Manifest.read (before ++ tagText inside ++ after) =
        front >>= fun p => p.conclude
          (Cursor.remaining ⟨.markup, nest⟩ (inside ++ '>' :: after.toList)) := by
  obtain ⟨found, data, reads⟩ := stands
  have open' : Cursor.Reads ⟨.content data, nest⟩ ['<'] (Xml.Forest.events (Xml.heldText data))
      ⟨.markup, nest⟩ := by
    simpa using Cursor.Reads.cons (Xml.step_markup data nest) (.nil _)
  have reads : Cursor.start.Reads (Xml.unmarked (before ++ "<").toList)
      (found ++ Xml.Forest.events (Xml.heldText data)) ⟨.markup, nest⟩ := by
    rw [String.toList_append, Xml.unmarked_append fun _ => rfl]
    exact reads.append open'
  refine ⟨Progress.after {} (found ++ Xml.Forest.events (Xml.heldText data)),
    fun p ran => path_of_reads reads ran rfl, fun inside after => ?_⟩
  have text : before ++ tagText inside ++ after =
      (before ++ "<") ++ (spell inside ++ ">" ++ after) := by
    simp only [tagText, String.append_assoc]
  have rest : (spell inside ++ ">" ++ after).toList = inside ++ '>' :: after.toList := by
    simp [spell]
  rw [text, read_reads reads, rest]

/-! ## Order and repetition -/

section Tags

variable {nest : Nest} {first second : List Char} (begins : BeginsElement first)
include begins

/-- The reader goes on alike from tags with the same attributes, each name once. -/
theorem conclude_reordered (begins' : BeginsElement second) (reordered : Reordered first second)
    (distinct : Xml.Distinct (Xml.attributes (startTag first).attributes).1) (p : Progress)
    (rest : List Char) :
    (p.conclude (Cursor.remaining ⟨.markup, nest⟩ (first ++ '>' :: rest))).toOption =
      (p.conclude (Cursor.remaining ⟨.markup, nest⟩ (second ++ '>' :: rest))).toOption := by
  obtain ⟨ends, name, perm, fault⟩ := reordered
  have alike := Xml.alike_of_perm perm fault distinct.names
  have inner := Xml.agree_of_perm perm distinct nest.scope
  have listed (b : Xml.Binding) : b ∈ (startTag first).declared ↔ b ∈ (startTag second).declared :=
    (perm.filterMap _).mem_iff
  rw [conclude_tag begins, conclude_tag begins']
  rcases Xml.enter_cases (startTag first) with ⟨_, refused, b, member, other⟩ | ⟨accepted, allowed⟩
  · rcases Xml.enter_cases (startTag second) with ⟨_, refused', -⟩ | ⟨-, allowed'⟩
    · rw [refused, refused']
      rfl
    · exact absurd (allowed' b ((listed b).mp member)) (by simp [other])
  · rcases Xml.enter_cases (startTag second) with ⟨_, -, b, member, other⟩ | ⟨accepted', -⟩
    · exact absurd (allowed b ((listed b).mpr member)) (by simp [other])
    · have start : Event.Alike (Scope.start ((startTag first).declared.reverse ++ nest.scope)
          (startTag first)) (Scope.start ((startTag second).declared.reverse ++ nest.scope)
          (startTag second)) := .of_resolve alike (by rw [inner.resolve, name])
      have open' : Nest.Agree (nest.behind first ((startTag first).declared.reverse ++ nest.scope))
          (nest.behind second ((startTag second).declared.reverse ++ nest.scope)) :=
        .behind ends name inner
      rw [accepted, accepted']
      simp only [toOption_bind, step_alike start, Xml.remaining_agree open', Xml.tagEnd, ends]

/-- A name that occurs twice among the attributes that are looked at makes the reader fail. -/
theorem nodup_of_conclude {p : Progress} {m : Manifest} {rest : List Char}
    (path : openPath? nest = p.path?)
    (accepted : p.conclude (Cursor.remaining ⟨.markup, nest⟩ (first ++ '>' :: rest)) = .ok m) :
    ((lookedAtIn nest first).1.map Xml.Attribute.name).Nodup := by
  rw [conclude_tag begins] at accepted
  rcases Xml.enter_cases (startTag first) with ⟨_, refused, -⟩ | ⟨entered, -⟩
  · rw [refused] at accepted
    cases accepted
  · rw [entered] at accepted
    obtain ⟨q, ran, -⟩ := ok_of_bind accepted
    have nodup := nodup_lookedAt ran
    rwa [← path] at nodup

theorem conclude_lookedAt (begins' : BeginsElement second)
    (ends : Xml.IsEmptyTag first ↔ Xml.IsEmptyTag second)
    (name : (startTag first).name = (startTag second).name)
    (declared : (startTag first).declared = (startTag second).declared)
    (same : lookedAtIn nest first = lookedAtIn nest second) {p : Progress}
    (path : openPath? nest = p.path?) (rest : List Char) :
    p.conclude (Cursor.remaining ⟨.markup, nest⟩ (first ++ '>' :: rest)) =
      p.conclude (Cursor.remaining ⟨.markup, nest⟩ (second ++ '>' :: rest)) := by
  rw [conclude_tag begins, conclude_tag begins']
  have enter (scope : Scope) : scope.enter (startTag first) = scope.enter (startTag second) := by
    have found : (Xml.attributes (startTag first).attributes).1.filterMap Xml.Attribute.binding? =
        (Xml.attributes (startTag second).attributes).1.filterMap Xml.Attribute.binding? := declared
    simp only [Scope.enter, found]
  rw [enter]
  rcases Xml.enter_cases (startTag second) with ⟨_, refused, -⟩ | ⟨accepted, -⟩
  · rw [refused]
  · simp only [lookedAtIn, Tag.resolved, declared, name, path] at same
    simp only [accepted, Scope.start, Nest.behind, Xml.tagEnd, ends, name,
      step_eq_of_lookedAt name same]

end Tags

/-- Where no name occurs twice, the attributes of a tag may stand in any order. A name that occurs
twice among those that the reader looks at makes it refuse the document. What stands behind them,
and declares nothing, it does not see, a name that occurs twice included. -/
theorem read_attributes {before : String} {nest : Nest} (stands : EndsIn before.toList nest)
    {first : List Char} (begins : BeginsElement first) (after : String) :
    (∀ second, BeginsElement second → Reordered first second →
      Xml.Distinct (Xml.attributes (startTag first).attributes).1 →
      (Manifest.read (before ++ tagText first ++ after)).toOption =
        (Manifest.read (before ++ tagText second ++ after)).toOption) ∧
    (¬ ((lookedAtIn nest first).1.map Xml.Attribute.name).Nodup →
      ∃ fault, Manifest.read (before ++ tagText first ++ after) = .error (.format fault)) ∧
    (∀ second, BeginsElement second → (Xml.IsEmptyTag first ↔ Xml.IsEmptyTag second) →
      (startTag first).name = (startTag second).name →
      (startTag first).declared = (startTag second).declared →
      lookedAtIn nest first = lookedAtIn nest second →
      Manifest.read (before ++ tagText first ++ after) =
        Manifest.read (before ++ tagText second ++ after)) := by
  obtain ⟨front, path, reads⟩ := read_tag stands
  refine ⟨fun second begins' reordered distinct => ?_, fun repeated => ?_,
    fun second begins' ends name declared same => ?_⟩
  · rw [reads, reads, toOption_bind, toOption_bind]
    exact congrArg _ (funext fun p => conclude_reordered begins begins' reordered distinct p _)
  · cases read : Manifest.read (before ++ tagText first ++ after) with
    | error e =>
      obtain ⟨fault, rfl⟩ := formatOnly_read _ _ read
      exact ⟨fault, rfl⟩
    | ok m =>
      rw [reads] at read
      obtain ⟨p, ran, accepted⟩ := ok_of_bind read
      exact absurd (nodup_of_conclude begins (path p ran) accepted) repeated
  · rw [reads, reads]
    cases ran : front with
    | error e => rfl
    | ok p => exact conclude_lookedAt begins begins' ends name declared same (path p ran) _

/-! ## A reference with two targets -/

def targetFront : String :=
  spell (decoyRoot.opening ++ decoyRecord.opening ++ decoyData.opening)

def targetBack : String :=
  spell (decoyData.closing [] ++ decoyRecord.closing [] ++ decoyRoot.closing [])

def targetNest : Nest :=
  (spell decoyData.name, decoyData.scope (decoyRecord.scope (decoyRoot.scope []))) :: decoyNest

def targetTag (attributes : String) : List Char :=
  "e:CipherReference ".toList ++ attributes.toList ++ ['/']

def targetPage (attributes : String) : String :=
  targetFront ++ tagText (targetTag attributes) ++ targetBack

theorem endsIn_targetFront : EndsIn targetFront.toList targetNest := by
  have root : decoyRoot.NamespaceWellFormed :=
    wellFormed_tagWith (by decide) (by decide) (by decide +kernel)
  have data : decoyData.NamespaceWellFormed :=
    wellFormed_tagWith (by decide) (by decide) (by decide)
  rw [targetFront, spell, String.toList_ofList]
  exact ((Xml.endsIn_nil.opening root).opening wellFormed_decoyRecord).opening data

theorem read_targetPage (attributes : String) : Manifest.read (targetPage attributes) =
    Progress.conclude {} (Cursor.start.remaining (Xml.unmarked
      (decoyRoot.opening ++ decoyRecord.opening ++ decoyData.opening ++
        ('<' :: (targetTag attributes ++ ['>'])) ++
        (decoyData.closing [] ++ decoyRecord.closing [] ++ decoyRoot.closing [])))) := by
  have text : (targetPage attributes).toList =
      decoyRoot.opening ++ decoyRecord.opening ++ decoyData.opening ++
        ('<' :: (targetTag attributes ++ ['>'])) ++
        (decoyData.closing [] ++ decoyRecord.closing [] ++ decoyRoot.closing []) := by
    simp [targetPage, targetFront, targetBack, tagText, spell]
  rw [read_eq_conclude, Xml.events_eq_remaining, text]

theorem repeated_target_read :
    Reordered (targetTag "URI='a' URI='b'") (targetTag "URI='b' URI='a'") ∧
      Manifest.read (targetPage "URI='a' URI='b'") = .ok [{ uri := "a" }] ∧
      Manifest.read (targetPage "URI='b' URI='a'") = .ok [{ uri := "b" }] := by
  refine ⟨⟨by decide, by decide, by decide, by decide⟩, ok_of_toOption ?_, ok_of_toOption ?_⟩
  · rw [read_targetPage]
    decide +kernel
  · rw [read_targetPage]
    decide +kernel

/-- Names that differ may stand in any order; two of one name are refused in front of the target and
not seen behind it. -/
theorem read_attributes_targetPage :
    (Manifest.read (targetPage "Id='n' URI='a'")).toOption =
        (Manifest.read (targetPage "URI='a' Id='n'")).toOption ∧
      (∃ fault, Manifest.read (targetPage "Id='n' Id='m' URI='a'") = .error (.format fault)) ∧
      Manifest.read (targetPage "URI='a' URI='b'") = Manifest.read (targetPage "URI='a'") := by
  have swapped : Reordered (targetTag "Id='n' URI='a'") (targetTag "URI='a' Id='n'") :=
    ⟨by decide, by decide, by decide, by decide⟩
  have inOrder := read_attributes endsIn_targetFront
    (show BeginsElement (targetTag "Id='n' URI='a'") by decide) targetBack
  have inFront := read_attributes endsIn_targetFront
    (show BeginsElement (targetTag "Id='n' Id='m' URI='a'") by decide) targetBack
  have behind := read_attributes endsIn_targetFront
    (show BeginsElement (targetTag "URI='a' URI='b'") by decide) targetBack
  refine ⟨inOrder.1 _ (by decide) swapped (by decide), inFront.2.1 (by decide), ?_⟩
  exact behind.2.2 (targetTag "URI='a'") (by decide) (by decide) (by decide) (by decide) (by decide)

end Bindery.Encryption
