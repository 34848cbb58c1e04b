import Bindery.Proofs.Action
import Bindery.Proofs.Encryption.Truncation
import Bindery.Proofs.Xml.Tree

/-! Which elements of a document become records. The reader takes every record element that stands
in no other one, however deep it stands and whether or not the root has ended in front of it. So the
records are those of the children of the root exactly where no record element stands elsewhere. -/
namespace Bindery.Encryption

open Xml (Event Forest Node Outline Tag)

def Progress.after (p : Progress) (events : List Event) : Result Progress :=
  events.foldlM Progress.step p

theorem after_cons (p : Progress) (event : Event) (events : List Event) :
    p.after (event :: events) = p.step event >>= fun q => q.after events :=
  List.foldlM_cons

theorem after_append (p : Progress) (first second : List Event) :
    p.after (first ++ second) = p.after first >>= fun q => q.after second :=
  List.foldlM_append

/-! ## The record of an element -/

mutual

def Record.absorb (path : List Part) (r : Record) : Node → Result Record
  | .text content =>
    match path with
    | .keySize :: _ => do
      let size ← readNumber "KeySize" (Nat.pow 2 32) (trim isBlank content)
      .ok { r with keySize := some (UInt32.ofNat size) }
    | _ => .ok r
  | .element space label tag inside => do
    let (r, part) ← r.enter path space label tag
    Record.absorbAll (part :: path) r inside

def Record.absorbAll (path : List Part) (r : Record) : List Node → Result Record
  | [] => .ok r
  | node :: rest => do
    let r ← Record.absorb path r node
    Record.absorbAll path r rest

end

abbrev Element := Tag × Forest

def Record.ofElement (e : Element) : Result Record := do
  Record.absorbAll [] (← Record.ofTag e.1) e.2

def IsRecord (space : Option String) (label : String) : Prop :=
  space = some encryptionSpace ∧ label = "EncryptedData"

instance (space : Option String) (label : String) : Decidable (IsRecord space label) :=
  inferInstanceAs (Decidable (_ ∧ _))

mutual

/-- The record elements in a node that stand in no other one, in document order. -/
def outermost : Node → List Element
  | .text _ => []
  | .element space label tag inside =>
    if IsRecord space label then [(tag, inside)] else outermostOf inside

def outermostOf : List Node → List Element
  | [] => []
  | node :: rest => outermost node ++ outermostOf rest

end

def recordElement? : Node → Option Element
  | .text _ => none
  | .element space label tag inside => if IsRecord space label then some (tag, inside) else none

/-! ## Reading in a record -/

theorem step_text_inside (path : List Part) (r : Record) (records : List Record)
    (content : List Char) :
    Progress.step ⟨.inside r path, records⟩ (.text content) =
      (r.absorb path (.text content)).map fun r' => ⟨.inside r' path, records⟩ := by
  cases path with
  | nil => rfl
  | cons part path =>
    cases part with
    | keySize =>
      simp only [Progress.step, Record.absorb]
      cases readNumber "KeySize" (Nat.pow 2 32) (trim isBlank content) with
      | error e => rfl
      | ok size => rfl
    | _ => rfl

mutual

theorem after_node_inside : (node : Node) → (path : List Part) → (r : Record) →
    (records : List Record) → Progress.after ⟨.inside r path, records⟩ node.events =
      (r.absorb path node).map fun r' => ⟨.inside r' path, records⟩
  | .text content, path, r, records => by
    rw [Node.events, after_cons, step_text_inside]
    cases r.absorb path (.text content) with
    | error e => rfl
    | ok r' => rfl
  | .element space label tag inside, path, r, records => by
    rw [Node.events, after_cons, Record.absorb]
    simp only [Progress.step]
    cases r.enter path space label tag with
    | error e => rfl
    | ok entered =>
      obtain ⟨r', part⟩ := entered
      change Progress.after ⟨.inside r' (part :: path), records⟩ _ = _
      rw [after_append, after_forest_inside inside]
      change _ = (Record.absorbAll (part :: path) r' inside).map _
      cases Record.absorbAll (part :: path) r' inside with
      | error e => rfl
      | ok r'' => rfl

theorem after_forest_inside : (nodes : List Node) → (path : List Part) → (r : Record) →
    (records : List Record) →
    Progress.after ⟨.inside r path, records⟩ (Forest.events nodes) =
      (Record.absorbAll path r nodes).map fun r' => ⟨.inside r' path, records⟩
  | [], path, r, records => rfl
  | node :: rest, path, r, records => by
    rw [Forest.events, after_append, after_node_inside node, Record.absorbAll]
    cases r.absorb path node with
    | error e => rfl
    | ok r' => exact after_forest_inside rest path r' records

end

/-! ## Reading between records -/

theorem after_record (tag : Tag) (inside : Forest) (records : List Record) :
    Progress.after ⟨.between, records⟩
        (Node.element (some encryptionSpace) "EncryptedData" tag inside).events =
      (Record.ofElement (tag, inside)).map fun r => ⟨.between, r :: records⟩ := by
  rw [Node.events, after_cons, Record.ofElement]
  simp only [Progress.step, and_self, if_true]
  cases Record.ofTag tag with
  | error e => rfl
  | ok r =>
    change Progress.after ⟨.inside r [], records⟩ _ = (Record.absorbAll [] r inside).map _
    rw [after_append, after_forest_inside inside]
    cases Record.absorbAll [] r inside with
    | error e => rfl
    | ok r' => rfl

def Progress.behind (records : List Record) (found : List Record) : Progress :=
  ⟨.between, found.reverse ++ records⟩

mutual

theorem after_node_between : (node : Node) → (records : List Record) →
    Progress.after ⟨.between, records⟩ node.events =
      ((outermost node).mapM Record.ofElement).map (Progress.behind records)
  | .text _, _ => rfl
  | .element space label tag inside, records => by
    rw [outermost]
    split
    · rename_i named
      obtain ⟨rfl, rfl⟩ := named
      rw [after_record, List.mapM_cons]
      cases Record.ofElement (tag, inside) with
      | error e => rfl
      | ok r => rfl
    · rename_i other
      have step : Progress.step ⟨.between, records⟩ (.start space label tag) =
          .ok ⟨.between, records⟩ := by
        simp only [Progress.step]
        exact if_neg other
      rw [Node.events, after_cons, step]
      change Progress.after ⟨.between, records⟩ _ = _
      rw [after_append, after_forest_between inside]
      cases (outermostOf inside).mapM Record.ofElement with
      | error e => rfl
      | ok found => rfl

theorem after_forest_between : (nodes : List Node) → (records : List Record) →
    Progress.after ⟨.between, records⟩ (Forest.events nodes) =
      ((outermostOf nodes).mapM Record.ofElement).map (Progress.behind records)
  | [], _ => rfl
  | node :: rest, records => by
    rw [Forest.events, after_append, after_node_between node, outermostOf, List.mapM_append]
    cases (outermost node).mapM Record.ofElement with
    | error e => rfl
    | ok found =>
      change Progress.after ⟨.between, found.reverse ++ records⟩ _ = _
      rw [after_forest_between rest]
      cases (outermostOf rest).mapM Record.ofElement with
      | error e => rfl
      | ok later => simp [Except.map, Progress.behind, bind, Except.bind, pure, Except.pure]

end

/-! ## Children of the root -/

def recordChildren (nodes : Forest) : List Element := nodes.filterMap recordElement?

/-- No record element stands elsewhere than among some nodes, unless it does so in such a one. -/
def NoneDeeper (nodes : Forest) : Prop :=
  ∀ node ∈ nodes, recordElement? node = none → outermost node = []

theorem outermost_of_recordElement {node : Node} {e : Element}
    (record : recordElement? node = some e) : outermost node = [e] := by
  cases node with
  | text content => cases record
  | element space label tag inside =>
    simp only [recordElement?, outermost] at record ⊢
    split at record
    · rename_i named
      cases record
      exact if_pos named
    · cases record

theorem recordChildren_sublist (nodes : Forest) :
    (recordChildren nodes).Sublist (outermostOf nodes) := by
  induction nodes with
  | nil => exact List.Sublist.refl _
  | cons node rest ih =>
    cases record : recordElement? node with
    | none =>
      rw [recordChildren, List.filterMap_cons_none record, outermostOf]
      exact ih.trans (List.sublist_append_right _ _)
    | some e =>
      rw [recordChildren, List.filterMap_cons_some record, outermostOf,
        outermost_of_recordElement record]
      exact ih.cons_cons e

theorem outermostOf_eq_recordChildren_iff (nodes : Forest) :
    outermostOf nodes = recordChildren nodes ↔ NoneDeeper nodes := by
  unfold NoneDeeper
  induction nodes with
  | nil => simp [outermostOf, recordChildren]
  | cons node rest ih =>
    rw [List.forall_mem_cons, ← ih, outermostOf]
    cases record : recordElement? node with
    | none =>
      rw [recordChildren, List.filterMap_cons_none record]
      have fewer := (recordChildren_sublist rest).length_le
      constructor
      · intro same
        have lengths := congrArg List.length same
        have none : outermost node = [] := by
          rw [List.length_append, ← recordChildren] at lengths
          exact List.length_eq_zero_iff.mp (by omega)
        refine ⟨fun _ => none, ?_⟩
        rwa [none, List.nil_append] at same
      · rintro ⟨none, same⟩
        rw [none rfl, List.nil_append]
        exact same
    | some e =>
      rw [recordChildren, List.filterMap_cons_some record, outermost_of_recordElement record]
      simp [recordChildren]

theorem outermostOf_append (first second : Forest) :
    outermostOf (first ++ second) = outermostOf first ++ outermostOf second := by
  induction first with
  | nil => rfl
  | cons node first ih => rw [List.cons_append, outermostOf, outermostOf, ih, List.append_assoc]

/-! ## Documents -/

/-- Records that elements say, one for each, in their order. -/
def AreRecordsOf (elements : List Element) (found : Manifest) : Prop :=
  elements.map Record.ofElement = found.map .ok

theorem AreRecordsOf.length {elements : List Element} {found : Manifest}
    (records : AreRecordsOf elements found) : elements.length = found.length := by
  simpa using congrArg List.length records

/-- A tree with the root element of a manifest, in front of which is nothing but character data. -/
def HasRoot (nodes : Forest) (tag : Tag) (inside behind : Forest) : Prop :=
  ∃ before : Forest,
    nodes = before ++ .element (some containerSpace) "encryption" tag inside :: behind ∧
    ∀ node ∈ before, ∃ content, node = .text content

theorem records_of_after {nodes : Forest} {p : Progress} {found : Manifest}
    (ran : Progress.after ⟨.between, []⟩ (Forest.events nodes) = .ok p)
    (ends : p.finish = .ok found) : AreRecordsOf (outermostOf nodes) found := by
  rw [after_forest_between] at ran
  obtain ⟨records, made, rfl⟩ := ok_of_map ran
  have same : records = found := by simpa [Progress.finish, Progress.behind] using ends
  exact same ▸ map_of_mapM made

theorem hasRoot_of_after {nodes : Forest} {p : Progress} {found : Manifest}
    (ran : Progress.after {} (Forest.events nodes) = .ok p) (ends : p.finish = .ok found) :
    ∃ tag inside behind, HasRoot nodes tag inside behind ∧
      AreRecordsOf (outermostOf (inside ++ behind)) found := by
  induction nodes with
  | nil =>
    cases ran
    cases ends
  | cons node rest ih =>
    rw [Forest.events, after_append] at ran
    obtain ⟨q, first, ran⟩ := ok_of_bind ran
    cases node with
    | text content =>
      cases first
      obtain ⟨tag, inside, behind, ⟨before, rfl, texts⟩, records⟩ := ih ran
      refine ⟨tag, inside, behind, ⟨.text content :: before, rfl, ?_⟩, records⟩
      exact List.forall_mem_cons.mpr ⟨⟨content, rfl⟩, texts⟩
    | element space label tag inside =>
      rw [Node.events, after_cons] at first
      obtain ⟨begun, start, first⟩ := ok_of_bind first
      simp only [Progress.step] at start
      split at start
      · rename_i named
        obtain ⟨rfl, rfl⟩ := named
        cases start
        refine ⟨tag, inside, rest, ⟨[], rfl, by simp⟩, records_of_after ?_ ends⟩
        rw [after_append, after_forest_between] at first
        obtain ⟨_, within, stop⟩ := ok_of_bind first
        obtain ⟨records, _, rfl⟩ := ok_of_map within
        cases stop
        rw [Forest.events_append, after_append, after_forest_between, within]
        exact ran
      · cases start

theorem after_stops (records : List Record) (count : Nat) :
    Progress.after ⟨.between, records⟩ (List.replicate count .stop) = .ok ⟨.between, records⟩ := by
  induction count with
  | zero => rfl
  | succ count ih => exact ih

theorem read_of_events {text : String} {events : List Event} {p : Progress} {found : Manifest}
    (seen : Xml.events text = (events, none)) (ran : Progress.after {} events = .ok p)
    (ends : p.finish = .ok found) : Manifest.read text = .ok found := by
  unfold Manifest.read
  rw [seen]
  exact (bind_of_eq_ok ran _).trans ends

/-- What an accepted text is read as: the records of the record elements that stand in no other one,
in document order. They are those of the children of the root exactly where no such element stands
deeper in the root or behind it. -/
theorem read_outermost {text : String} {found : Manifest} (read : Manifest.read text = .ok found) :
    ∃ tag inside behind, HasRoot (Xml.forest text) tag inside behind ∧
      AreRecordsOf (outermostOf inside ++ outermostOf behind) found ∧
      (AreRecordsOf (recordChildren inside) found ↔
        NoneDeeper inside ∧ outermostOf behind = []) := by
  obtain ⟨p, ran, ended⟩ := ok_of_bind read
  have ends : p.finish = .ok found := by
    split at ended
    · cases ended
    · exact ended
  obtain ⟨left, events⟩ := Xml.events_forest text
  have whole : Progress.after {} (Forest.events (Xml.forest text)) = .ok p := by
    have between : p = ⟨.between, p.records⟩ := by
      obtain ⟨position, records⟩ := p
      cases position with
      | start => cases ends
      | between => rfl
      | inside r path => cases ends
    have ran : Progress.after {} (Xml.events text).1 = .ok p := ran
    rw [events, after_append, ran, between]
    exact after_stops p.records left
  obtain ⟨tag, inside, behind, root, records⟩ := hasRoot_of_after whole ends
  rw [outermostOf_append] at records
  refine ⟨tag, inside, behind, root, records, ?_⟩
  rw [← outermostOf_eq_recordChildren_iff]
  constructor
  · intro children
    have count := children.length.trans records.length.symm
    rw [List.length_append] at count
    have fewer := (recordChildren_sublist inside).length_le
    refine ⟨((recordChildren_sublist inside).eq_of_length_le (by omega)).symm, ?_⟩
    exact List.length_eq_zero_iff.mp (by omega)
  · rintro ⟨same, none⟩
    rwa [none, List.append_nil, same] at records

/-! ## A record in an encrypted key -/

theorem exists_forest {outline : Outline} (inner : outline.Inner) (scope : Xml.Scope) :
    ∃ nodes : Forest, outline.events scope = Forest.events nodes := by
  induction inner with
  | nil => exact ⟨[], rfl⟩
  | append _ _ first second =>
    obtain ⟨before, first⟩ := first
    obtain ⟨behind, second⟩ := second
    exact ⟨before ++ behind, by rw [Outline.events_append, first, second, Forest.events_append]⟩
  | @leaf name values _ _ =>
    exact ⟨[.element (scope.resolve name).1 (scope.resolve name).2 (Xml.tagOf name values) []], rfl⟩
  | @text name content _ _ =>
    exact ⟨[.element (scope.resolve name).1 (scope.resolve name).2 (Xml.tagOf name [])
      [.text content.toList]], rfl⟩
  | @nest name values inside _ _ _ within =>
    obtain ⟨nodes, within⟩ := within
    refine ⟨[.element (scope.resolve name).1 (scope.resolve name).2 (Xml.tagOf name values) nodes],
      ?_⟩
    rw [Outline.events_nest, within]
    exact (List.append_nil _).symm

def keyedPage : Record := .of "page.xhtml" "AES-CBC"

/-- A manifest whose only record element stands in an encrypted key. -/
def keyedOutline : Outline :=
  Outline.nest "encryption" Manifest.rootValues
    (Outline.nest "enc:EncryptedKey" [] keyedPage.outline)

theorem events_keyed :
    Xml.events (written keyedOutline) = (keyedOutline.events rootScope, none) := by
  have inner : Outline.Inner (Outline.nest "enc:EncryptedKey" [] keyedPage.outline) :=
    .nest (by decide) Xml.Values.inner_nil (inner_outline keyedPage)
  have named : Xml.PlainName "encryption" := by decide
  have plain : keyedOutline.Plain := Outline.plain_nest named plain_rootValues inner.plain
  rw [Xml.events, toList_written, scan_declaration_line, Xml.scanFrom_outline _ [] plain]
  exact Xml.eventsFrom_root enter_root inner

theorem start_key : rootScope.start (Xml.tagOf "enc:EncryptedKey" []) =
    .start (some encryptionSpace) "EncryptedKey" (Xml.tagOf "enc:EncryptedKey" []) := by
  have resolved : rootScope.resolve (Xml.tagOf "enc:EncryptedKey" []).name =
      (some encryptionSpace, "EncryptedKey") := resolve_enc "EncryptedKey"
  rw [Xml.Scope.start, resolved]

theorem start_root : rootScope.start (Xml.tagOf "encryption" Manifest.rootValues) =
    .start (some containerSpace) "encryption" (Xml.tagOf "encryption" Manifest.rootValues) := by
  have resolved : rootScope.resolve (Xml.tagOf "encryption" Manifest.rootValues).name =
      (some containerSpace, "encryption") := resolve_root
  rw [Xml.Scope.start, resolved]

theorem after_keyed :
    Progress.after {} (keyedOutline.events rootScope) = .ok ⟨.between, [keyedPage]⟩ := by
  have key : Progress.step ⟨.between, []⟩
      (rootScope.start (Xml.tagOf "enc:EncryptedKey" [])) = .ok ⟨.between, []⟩ := by
    rw [start_key]
    rfl
  have record : Progress.after ⟨.between, []⟩ (keyedPage.outline.events rootScope) =
      .ok ⟨.between, [keyedPage]⟩ := foldlM_record keyedPage []
  rw [keyedOutline, Outline.events_nest, Outline.events_nest, List.cons_append, after_cons,
    bind_of_eq_ok step_root, List.cons_append, List.cons_append, after_cons, bind_of_eq_ok key,
    List.append_assoc, after_append, bind_of_eq_ok record]
  exact after_stops [keyedPage] 2

theorem read_keyed : Manifest.read (written keyedOutline) = .ok [keyedPage] :=
  read_of_events events_keyed after_keyed rfl

/-- The record of an element in an encrypted key is read, and no child of the root says it. -/
theorem keyedPage_read : ∃ tag inside,
    Xml.forest (written keyedOutline) =
      [.element (some containerSpace) "encryption" tag inside] ∧
    recordChildren inside = [] ∧ Manifest.read (written keyedOutline) = .ok [keyedPage] := by
  obtain ⟨nodes, same⟩ := exists_forest (inner_outline keyedPage) rootScope
  let key : Node := .element (some encryptionSpace) "EncryptedKey"
    (Xml.tagOf "enc:EncryptedKey" []) nodes
  let root : Node := .element (some containerSpace) "encryption"
    (Xml.tagOf "encryption" Manifest.rootValues) [key]
  have events : keyedOutline.events rootScope = Forest.events [root] ++ [] := by
    rw [keyedOutline, Outline.events_nest, Outline.events_nest, same, start_root, start_key]
    simp [Forest.events, Node.events, root, key]
  refine ⟨Xml.tagOf "encryption" Manifest.rootValues, [key], ?_, rfl, read_keyed⟩
  rw [Xml.forest, events_keyed, events, Xml.levels_forest]
  rfl

theorem read_outermost_keyed : Manifest.read (written keyedOutline) = .ok [keyedPage] ∧
    ∃ tag inside behind, HasRoot (Xml.forest (written keyedOutline)) tag inside behind ∧
      AreRecordsOf (outermostOf inside ++ outermostOf behind) [keyedPage] ∧
      (AreRecordsOf (recordChildren inside) [keyedPage] ↔
        NoneDeeper inside ∧ outermostOf behind = []) :=
  ⟨read_keyed, read_outermost read_keyed⟩

end Bindery.Encryption
