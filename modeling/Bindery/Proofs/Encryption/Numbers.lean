import Bindery.Proofs.Encryption.Refusal
import Bindery.Proofs.Text.Denotation
import Mathlib.Data.List.Forall2

/-! Numbers in a manifest. A number is read from the text that denotes it or the document is refused,
so that every number of a record is one that its element says: the size of a key in the last text of
a key size, a descriptor in the last one of its property. -/
namespace Bindery.Encryption

open Xml (Event Forest Node Tag)

/-! ## Readers -/

theorem readNumber_eq_ok_iff {what : String} {limit n : Nat} {text : List Char} :
    readNumber what limit text = .ok n ↔ Denotes text n ∧ n < limit := by
  rw [← numeral_eq_some_iff, readNumber]
  cases numeral? limit text with
  | none => simp
  | some m => simp

theorem readNumber_of_none {what : String} {limit : Nat} {text : List Char}
    (none : ∀ n < limit, ¬ Denotes text n) :
    readNumber what limit text = .error (.format (.badNumber what (spell text))) := by
  cases found : numeral? limit text with
  | none => simp [readNumber, found]
  | some n =>
    obtain ⟨denotes, below⟩ := numeral_eq_some_iff.mp found
    exact absurd denotes (none n below)

/-- Character data that says the size of a key. Blanks around the numeral say nothing. -/
def SaysSize (content : List Char) (size : UInt32) : Prop := Denotes (trim isBlank content) size.toNat

/-- A tag that says a descriptor. An attribute that it does not have says zero. -/
structure Describes (tag : Tag) (c : Compression) : Prop where
  method : ∃ value, Xml.value? tag.attributes "Method" = .ok value ∧
    Denotes (value.getD "0").toList c.method.toNat
  originalLength : ∃ value, Xml.value? tag.attributes "OriginalLength" = .ok value ∧
    Denotes (value.getD "0").toList c.originalLength.toNat

theorem ofTag_eq_ok_iff {tag : Tag} {c : Compression} :
    Compression.ofTag tag = .ok c ↔ Describes tag c := by
  constructor
  · intro read
    obtain ⟨method?, method, read⟩ := ok_of_bind read
    obtain ⟨length?, length, read⟩ := ok_of_bind read
    obtain ⟨m, number, read⟩ := ok_of_bind read
    obtain ⟨l, number', read⟩ := ok_of_bind read
    obtain ⟨denotes, below⟩ := readNumber_eq_ok_iff.mp number
    obtain ⟨denotes', below'⟩ := readNumber_eq_ok_iff.mp number'
    cases read
    have same : (UInt16.ofNat m).toNat = m := UInt16.toNat_ofNat_of_lt' below
    have same' : (UInt64.ofNat l).toNat = l := UInt64.toNat_ofNat_of_lt' below'
    constructor
    · exact ⟨method?, method, by rwa [same]⟩
    · exact ⟨length?, length, by rwa [same']⟩
  · rintro ⟨⟨method?, method, denotes⟩, ⟨length?, length, denotes'⟩⟩
    have number (what : String) : readNumber what (Nat.pow 2 16) (method?.getD "0").toList =
        .ok c.method.toNat := readNumber_eq_ok_iff.mpr ⟨denotes, c.method.toNat_lt⟩
    have number' (what : String) : readNumber what (Nat.pow 2 64) (length?.getD "0").toList =
        .ok c.originalLength.toNat := readNumber_eq_ok_iff.mpr ⟨denotes', c.originalLength.toNat_lt⟩
    simp only [Compression.ofTag, bind_of_eq_ok method, bind_of_eq_ok length,
      bind_of_eq_ok (number _), bind_of_eq_ok (number' _), UInt16.ofNat_toNat, UInt64.ofNat_toNat]

theorem absorb_size_iff {path : List Part} {r r' : Record} {content : List Char} :
    r.absorb (.keySize :: path) (.text content) = .ok r' ↔
      ∃ size, SaysSize content size ∧ r' = { r with keySize := some size } := by
  constructor
  · intro read
    obtain ⟨n, number, read⟩ := ok_of_bind read
    obtain ⟨denotes, below⟩ := readNumber_eq_ok_iff.mp number
    cases read
    have same : (UInt32.ofNat n).toNat = n := UInt32.toNat_ofNat_of_lt' below
    refine ⟨UInt32.ofNat n, ?_, rfl⟩
    rwa [SaysSize, same]
  · rintro ⟨size, said, rfl⟩
    have number : readNumber "KeySize" (Nat.pow 2 32) (trim isBlank content) = .ok size.toNat :=
      readNumber_eq_ok_iff.mpr ⟨said, size.toNat_lt⟩
    rw [Record.absorb, bind_of_eq_ok number, UInt32.ofNat_toNat]

/-! ## What a record element says -/

def elementsOf (path : List Part) (part : Part) (nodes : Forest) : List Element :=
  nodes.filterMap fun
    | .text _ => none
    | .element space label tag inside =>
      if Part.child path space label = part then some (tag, inside) else none

def textsOf (nodes : Forest) : List (List Char) :=
  nodes.filterMap fun
    | .text content => some content
    | .element .. => none

def methodTexts (method : Forest) : List (List Char) :=
  (elementsOf [.method] .keySize method).flatMap fun size => textsOf size.2

def sizeTexts (record : Forest) : List (List Char) :=
  (elementsOf [] .method record).flatMap fun method => methodTexts method.2

def descriptorTags (property : Forest) : List Tag :=
  (elementsOf [.property] .compression property).map Prod.fst

def propertyElements (record : Forest) : List Element :=
  (elementsOf [] .properties record).flatMap fun properties =>
    elementsOf [.properties] .property properties.2

theorem elementsOf_append (path : List Part) (part : Part) (first second : Forest) :
    elementsOf path part (first ++ second) =
      elementsOf path part first ++ elementsOf path part second := List.filterMap_append

theorem elementsOf_element (path : List Part) (part : Part) (space : Option String)
    (label : String) (tag : Tag) (inside : Forest) :
    elementsOf path part [.element space label tag inside] =
      if Part.child path space label = part then [(tag, inside)] else [] := by
  by_cases found : Part.child path space label = part
  · simp [elementsOf, found]
  · simp [elementsOf, found]

theorem elementsOf_found {path : List Part} {part : Part} {space : Option String} {label : String}
    {tag : Tag} {inside : Forest} (child : Part.child path space label = part) :
    elementsOf path part [.element space label tag inside] = [(tag, inside)] := by
  rw [elementsOf_element, if_pos child]

theorem textsOf_append (first second : Forest) :
    textsOf (first ++ second) = textsOf first ++ textsOf second := List.filterMap_append

section LastSaid

variable {α β : Type} {said : α → β → Prop} {item : α} {first second : List α} {a b c : Option β}

/-- Each item says a value, and the last one said is kept; where there are no items, the value that
was there before. -/
def LastSaid (said : α → β → Prop) (items : List α) (before after : Option β) : Prop :=
  ∃ values, List.Forall₂ said items values ∧ after = values.getLast?.or before

theorem LastSaid.nil : LastSaid said [] a a := ⟨[], .nil, rfl⟩

theorem LastSaid.one {value : β} (here : said item value) : LastSaid said [item] a (some value) :=
  ⟨[value], .cons here .nil, rfl⟩

theorem LastSaid.append (one : LastSaid said first a b) (other : LastSaid said second b c) :
    LastSaid said (first ++ second) a c := by
  obtain ⟨values, each, rfl⟩ := one
  obtain ⟨later, each', rfl⟩ := other
  refine ⟨values ++ later, List.rel_append each each', ?_⟩
  rw [List.getLast?_append, Option.or_assoc]

theorem lastSaid_nil_iff : LastSaid said [] a c ↔ c = a := by
  constructor
  · rintro ⟨_, _ | _, rfl⟩
    rfl
  · rintro rfl
    exact .nil

theorem lastSaid_cons_iff : LastSaid said (item :: first) a c ↔
    ∃ value, said item value ∧ LastSaid said first (some value) c := by
  constructor
  · rintro ⟨_, _ | @⟨_, value, _, values, here, each⟩, rfl⟩
    refine ⟨value, here, values, each, ?_⟩
    rw [List.getLast?_cons, Option.some_or]
    cases values.getLast? <;> rfl
  · rintro ⟨value, here, later⟩
    exact (LastSaid.one here).append later

theorem LastSaid.over (last : LastSaid said first none c) (a : Option β) :
    LastSaid said first a (c.or a) := by
  obtain ⟨values, each, rfl⟩ := last
  exact ⟨values, each, by rw [Option.or_none]⟩

theorem exists_said {values : List β} (each : List.Forall₂ said first values) :
    ∀ item ∈ first, ∃ value, said item value := by
  induction each with
  | nil => exact nofun
  | cons here _ ih => exact List.forall_mem_cons.mpr ⟨⟨_, here⟩, ih⟩

end LastSaid

def SaysDescriptor (property : Element) (c? : Option Compression) : Prop :=
  LastSaid Describes (descriptorTags property.2) none c?

/-- The numbers of a record are those that its element says. -/
structure NumbersOf (e : Element) (r : Record) : Prop where
  keySize : LastSaid SaysSize (sizeTexts e.2) none r.keySize
  properties : List.Forall₂ SaysDescriptor (propertyElements e.2) (r.properties.getD [])

/-- An element whose texts denote the numbers that they are read for. -/
structure Legible (e : Element) : Prop where
  sizes : ∀ content ∈ sizeTexts e.2, ∃ size, SaysSize content size
  descriptors : ∀ property ∈ propertyElements e.2, ∀ tag ∈ descriptorTags property.2,
    ∃ c, Describes tag c

theorem exists_saysSize_iff {content : List Char} : (∃ size, SaysSize content size) ↔
    (numeral? (Nat.pow 2 32) (trim isBlank content)).isSome = true := by
  rw [Option.isSome_iff_exists]
  constructor
  · rintro ⟨size, said⟩
    exact ⟨_, numeral_eq_some_iff.mpr ⟨said, size.toNat_lt⟩⟩
  · rintro ⟨n, number⟩
    obtain ⟨denotes, below⟩ := numeral_eq_some_iff.mp number
    have same : (UInt32.ofNat n).toNat = n := UInt32.toNat_ofNat_of_lt' below
    exact ⟨UInt32.ofNat n, by rwa [SaysSize, same]⟩

theorem exists_describes_iff {tag : Tag} :
    (∃ c, Describes tag c) ↔ (Compression.ofTag tag).toOption.isSome = true := by
  rw [Option.isSome_iff_exists]
  constructor
  · rintro ⟨c, describes⟩
    exact ⟨c, by rw [ofTag_eq_ok_iff.mpr describes]; rfl⟩
  · rintro ⟨c, made⟩
    exact ⟨c, ofTag_eq_ok_iff.mp (ok_of_toOption made)⟩

instance (e : Element) : Decidable (Legible e) :=
  decidable_of_iff ((∀ content ∈ sizeTexts e.2,
      (numeral? (Nat.pow 2 32) (trim isBlank content)).isSome = true) ∧
    ∀ property ∈ propertyElements e.2, ∀ tag ∈ descriptorTags property.2,
      (Compression.ofTag tag).toOption.isSome = true) <| by
    simp only [← exists_saysSize_iff, ← exists_describes_iff]
    exact ⟨fun ⟨sizes, descriptors⟩ => ⟨sizes, descriptors⟩,
      fun ⟨sizes, descriptors⟩ => ⟨sizes, descriptors⟩⟩

theorem NumbersOf.legible {e : Element} {r : Record} (numbers : NumbersOf e r) : Legible e := by
  obtain ⟨⟨sizes, each, _⟩, properties⟩ := numbers
  refine ⟨exists_said each, fun property listed => ?_⟩
  obtain ⟨c?, descriptors, each, _⟩ := exists_said properties property listed
  exact exists_said each

/-! ## Reading them -/

/-- What nodes side by side make of a record follows from what each of them does. -/
theorem absorbAll_induction (path : List Part) (tells : Forest → Record → Record → Prop)
    (none : ∀ r, tells [] r r)
    (one : ∀ node r r', Record.absorb path r node = .ok r' → tells [node] r r')
    (append : ∀ first second r r' r'', tells first r r' → tells second r' r'' →
      tells (first ++ second) r r'')
    {nodes : Forest} {r r' : Record} (ran : r.absorbAll path nodes = .ok r') : tells nodes r r' := by
  induction nodes generalizing r with
  | nil =>
    cases ran
    exact none _
  | cons node rest ih =>
    obtain ⟨between, here, later⟩ := ok_of_bind ran
    exact append [node] rest r between r' (one node r between here) (ih later)

structure TakesSizes (texts : List (List Char)) (r r' : Record) : Prop where
  keySize : LastSaid SaysSize texts r.keySize r'.keySize
  properties : r'.properties = r.properties

/-- A record behind descriptors in the last one of its properties. -/
structure TakesDescriptors (tags : List Tag) (r r' : Record) : Prop where
  keySize : r'.keySize = r.keySize
  last : ∀ before c?, r.properties = some (before ++ [c?]) →
    ∃ c?', LastSaid Describes tags c? c?' ∧ r'.properties = some (before ++ [c?'])

structure TakesProperties (elements : List Element) (r r' : Record) : Prop where
  keySize : r'.keySize = r.keySize
  more : ∀ before, r.properties = some before →
    ∃ later, List.Forall₂ SaysDescriptor elements later ∧ r'.properties = some (before ++ later)

structure TakesNodes (nodes : Forest) (r r' : Record) : Prop where
  keySize : LastSaid SaysSize (sizeTexts nodes) r.keySize r'.keySize
  properties : ∃ later, List.Forall₂ SaysDescriptor (propertyElements nodes) later ∧
    r'.properties.getD [] = r.properties.getD [] ++ later

section Levels

variable {r r' r'' : Record} {path : List Part} {nodes : Forest}

theorem TakesSizes.nil (r : Record) : TakesSizes [] r r := ⟨.nil, rfl⟩

theorem TakesSizes.append {first second : List (List Char)} (one : TakesSizes first r r')
    (other : TakesSizes second r' r'') : TakesSizes (first ++ second) r r'' where
  keySize := one.keySize.append other.keySize
  properties := other.properties.trans one.properties

theorem takes_keySize (ran : r.absorbAll (.keySize :: path) nodes = .ok r') :
    TakesSizes (textsOf nodes) r r' := by
  refine absorbAll_induction _ (fun nodes => TakesSizes (textsOf nodes)) .nil ?_ ?_ ran
  · intro node r r' read
    cases node with
    | text content =>
      obtain ⟨size, said, rfl⟩ := absorb_size_iff.mp read
      exact ⟨.one said, rfl⟩
    | element space label tag inside =>
      rw [absorb_unmodelled rfl] at read
      cases read
      exact .nil r
  · intro first second r r' r'' one other
    rw [textsOf_append]
    exact one.append other

/-- A node that stands in a record, and not in the size of its key, is passed over or begins one of
the parts of a record. -/
theorem absorb_cases (noSize : path.head? ≠ some .keySize) {node : Node}
    (read : r.absorb path node = .ok r') :
    (r' = r ∧ ∀ part ≠ .skipped, elementsOf path part [node] = []) ∨
    ∃ space label tag inside begun, node = .element space label tag inside ∧
      Part.child path space label ≠ .skipped ∧
      r.enter path space label tag = .ok (begun, Part.child path space label) ∧
      begun.absorbAll (Part.child path space label :: path) inside = .ok r' := by
  cases node with
  | text content =>
    rw [absorb_text noSize] at read
    cases read
    exact .inl ⟨rfl, fun _ _ => rfl⟩
  | element space label tag inside =>
    by_cases unmodelled : Part.child path space label = .skipped
    · rw [absorb_unmodelled unmodelled] at read
      cases read
      refine .inl ⟨rfl, fun part modelled => ?_⟩
      simp [elementsOf, unmodelled, modelled.symm]
    · obtain ⟨⟨begun, part⟩, entered, ran⟩ := ok_of_bind read
      obtain rfl := begins_enter r path space label tag begun part entered
      exact .inr ⟨space, label, tag, inside, begun, rfl, unmodelled, entered, ran⟩

theorem takes_method (ran : r.absorbAll (.method :: path) nodes = .ok r') :
    TakesSizes (methodTexts nodes) r r' := by
  refine absorbAll_induction _ (fun nodes => TakesSizes (methodTexts nodes)) .nil ?_ ?_ ran
  · intro node r r' read
    rcases absorb_cases (by rintro ⟨⟩) read with ⟨rfl, none⟩ | ⟨space, label, tag, inside, begun, rfl,
      modelled, entered, ran⟩
    · have texts : elementsOf [.method] .keySize [node] = [] := none .keySize nofun
      rw [methodTexts, texts]
      exact .nil r'
    · have size : label = "KeySize" := Decidable.not_not.mp fun other => modelled (if_neg other)
      have child : Part.child (.method :: path) space label = .keySize := if_pos size
      have sizes : elementsOf [.method] .keySize [.element space label tag inside] =
          [(tag, inside)] := elementsOf_found child
      rw [child, Record.enter, if_pos size] at entered
      cases entered
      rw [child] at ran
      rw [methodTexts, sizes, List.flatMap_singleton]
      exact takes_keySize ran
  · intro first second r r' r'' one other
    rw [methodTexts, elementsOf_append, List.flatMap_append]
    exact one.append other

/-! Below the other parts of a record there are no numbers. -/

def Part.Unnumbered (part : Part) : Prop :=
  part ∈ [.keyInfo, .retrieval, .cipherData, .cipherReference, .compression, .skipped]

instance (part : Part) : Decidable part.Unnumbered := inferInstanceAs (Decidable (_ ∈ _))

theorem enter_unnumbered {part child : Part} (unnumbered : part.Unnumbered) {space : Option String}
    {label : String} {tag : Tag} (entered : r.enter (part :: path) space label tag = .ok (r', child)) :
    child.Unnumbered ∧ TakesSizes [] r r' := by
  have skipped : Part.skipped.Unnumbered := by decide
  cases part with
  | keyInfo =>
    simp only [Record.enter] at entered
    split at entered
    · obtain ⟨uri, _, entered⟩ := ok_of_bind entered
      obtain ⟨type, _, entered⟩ := ok_of_bind entered
      cases entered
      exact ⟨by decide, .nil, rfl⟩
    · cases entered
      exact ⟨skipped, .nil r⟩
  | cipherData =>
    simp only [Record.enter] at entered
    split at entered
    · obtain ⟨uri, _, entered⟩ := ok_of_bind entered
      cases entered
      exact ⟨by decide, .nil, rfl⟩
    · cases entered
      exact ⟨skipped, .nil r⟩
  | retrieval | cipherReference | compression | skipped =>
    cases entered
    exact ⟨skipped, .nil r⟩
  | method | keySize | properties | property => exact absurd unnumbered (by decide)

mutual

theorem absorb_unnumbered {part : Part} (unnumbered : part.Unnumbered) : (node : Node) →
    (path : List Part) → (r : Record) → {r' : Record} →
    r.absorb (part :: path) node = .ok r' → TakesSizes [] r r'
  | .text content, path, r, r', read => by
    have noSize : (part :: path).head? ≠ some .keySize := by
      rintro ⟨⟩
      exact absurd unnumbered (by decide)
    rw [absorb_text noSize] at read
    cases read
    exact .nil r
  | .element space label tag inside, path, r, r', read => by
    obtain ⟨⟨begun, child⟩, entered, ran⟩ := ok_of_bind read
    obtain ⟨below, start⟩ := enter_unnumbered unnumbered entered
    exact start.append (absorbAll_unnumbered below inside _ begun ran)

theorem absorbAll_unnumbered {part : Part} (unnumbered : part.Unnumbered) : (nodes : List Node) →
    (path : List Part) → (r : Record) → {r' : Record} →
    r.absorbAll (part :: path) nodes = .ok r' → TakesSizes [] r r'
  | [], path, r, r', read => by
    cases read
    exact .nil r
  | node :: rest, path, r, r', read => by
    obtain ⟨between, here, later⟩ := ok_of_bind read
    exact (absorb_unnumbered unnumbered node path r here).append
      (absorbAll_unnumbered unnumbered rest path between later)

end

theorem TakesDescriptors.nil (r : Record) : TakesDescriptors [] r r :=
  ⟨rfl, fun _ c? same => ⟨c?, .nil, same⟩⟩

theorem TakesDescriptors.append {first second : List Tag} (one : TakesDescriptors first r r')
    (other : TakesDescriptors second r' r'') : TakesDescriptors (first ++ second) r r'' := by
  refine ⟨other.keySize.trans one.keySize, fun before c? same => ?_⟩
  obtain ⟨between, said, same'⟩ := one.last before c? same
  obtain ⟨c?', later, same''⟩ := other.last before between same'
  exact ⟨c?', said.append later, same''⟩

theorem TakesSizes.none (taken : TakesSizes [] r r') :
    r'.keySize = r.keySize ∧ r'.properties = r.properties := by
  obtain ⟨⟨values, each, size⟩, properties⟩ := taken
  cases each
  exact ⟨size, properties⟩

theorem takes_property (ran : r.absorbAll (.property :: path) nodes = .ok r') :
    TakesDescriptors (descriptorTags nodes) r r' := by
  refine absorbAll_induction _ (fun nodes => TakesDescriptors (descriptorTags nodes)) .nil ?_ ?_ ran
  · intro node r r' read
    rcases absorb_cases (by rintro ⟨⟩) read with ⟨rfl, none⟩ | ⟨space, label, tag, inside, begun, rfl,
      modelled, entered, ran⟩
    · have tags : elementsOf [.property] .compression [node] = [] := none .compression nofun
      rw [descriptorTags, tags]
      exact .nil r'
    · have named : space = some compressionSpace ∧ label = "Compression" :=
        Decidable.not_not.mp fun other => modelled (if_neg other)
      have child : Part.child (.property :: path) space label = .compression := if_pos named
      have descriptors : elementsOf [.property] .compression [.element space label tag inside] =
          [(tag, inside)] := elementsOf_found child
      rw [child, Record.enter, if_pos named] at entered
      obtain ⟨c, made, entered⟩ := ok_of_bind entered
      cases entered
      rw [child] at ran
      have below : Part.compression.Unnumbered := by decide
      obtain ⟨size, same⟩ := (absorbAll_unnumbered below inside _ _ ran).none
      rw [descriptorTags, descriptors, List.map_singleton]
      refine ⟨size, fun before c? written => ⟨some c, .one (ofTag_eq_ok_iff.mp made), ?_⟩⟩
      rw [same, written]
      simp [describeLast]
  · intro first second r r' r'' one other
    rw [descriptorTags, elementsOf_append, List.map_append]
    exact one.append other

theorem TakesProperties.nil (r : Record) : TakesProperties [] r r :=
  ⟨rfl, fun before same => ⟨[], .nil, by rw [same, List.append_nil]⟩⟩

theorem TakesProperties.append {first second : List Element} (one : TakesProperties first r r')
    (other : TakesProperties second r' r'') : TakesProperties (first ++ second) r r'' := by
  refine ⟨other.keySize.trans one.keySize, fun before same => ?_⟩
  obtain ⟨later, said, same'⟩ := one.more before same
  obtain ⟨last, said', same''⟩ := other.more _ same'
  exact ⟨later ++ last, List.rel_append said said', by rw [same'', List.append_assoc]⟩

theorem takes_properties (ran : r.absorbAll (.properties :: path) nodes = .ok r') :
    TakesProperties (elementsOf [.properties] .property nodes) r r' := by
  refine absorbAll_induction _
    (fun nodes => TakesProperties (elementsOf [.properties] .property nodes)) .nil ?_ ?_ ran
  · intro node r r' read
    rcases absorb_cases (by rintro ⟨⟩) read with ⟨rfl, none⟩ | ⟨space, label, tag, inside, begun, rfl,
      modelled, entered, ran⟩
    · have elements : elementsOf [.properties] .property [node] = [] := none .property nofun
      rw [elements]
      exact .nil r'
    · have named : space = some encryptionSpace ∧ label = "EncryptionProperty" :=
        Decidable.not_not.mp fun other => modelled (if_neg other)
      have child : Part.child (.properties :: path) space label = .property := if_pos named
      have elements : elementsOf [.properties] .property [.element space label tag inside] =
          [(tag, inside)] := elementsOf_found child
      rw [child, Record.enter, if_pos named] at entered
      cases entered
      rw [child] at ran
      obtain ⟨size, last⟩ := takes_property ran
      rw [elements]
      refine ⟨size, fun before same => ?_⟩
      obtain ⟨c?, said, same'⟩ := last before none (by rw [same, Option.getD_some])
      exact ⟨[c?], .cons said .nil, same'⟩
  · intro first second r r' r'' one other
    rw [elementsOf_append]
    exact one.append other

theorem enter_record {space : Option String} {label : String} {tag : Tag} {begun : Record}
    {part : Part} (entered : r.enter [] space label tag = .ok (begun, part)) :
    begun.keySize = r.keySize ∧ begun.properties.getD [] = r.properties.getD [] ∧
      (part = .method ∨ part.Unnumbered ∨
        part = .properties ∧ begun.properties = some (r.properties.getD [])) := by
  simp only [Record.enter] at entered
  split at entered
  · obtain ⟨algorithm, _, entered⟩ := ok_of_bind entered
    cases entered
    exact ⟨rfl, rfl, .inl rfl⟩
  split at entered
  · obtain ⟨keyName, _, entered⟩ := ok_of_bind entered
    cases entered
    exact ⟨rfl, rfl, .inr (.inl (by decide))⟩
  split at entered
  · cases entered
    exact ⟨rfl, rfl, .inr (.inl (by decide))⟩
  split at entered
  · cases entered
    exact ⟨rfl, rfl, .inr (.inr ⟨rfl, rfl⟩)⟩
  · cases entered
    exact ⟨rfl, rfl, .inr (.inl (by decide))⟩

theorem TakesNodes.nil {nodes : Forest} (texts : sizeTexts nodes = [])
    (elements : propertyElements nodes = []) (size : r'.keySize = r.keySize)
    (properties : r'.properties.getD [] = r.properties.getD []) : TakesNodes nodes r r' where
  keySize := by
    rw [texts, size]
    exact .nil
  properties := ⟨[], by rw [elements]; exact .nil, by rw [properties, List.append_nil]⟩

theorem TakesNodes.append {first second : Forest} (one : TakesNodes first r r')
    (other : TakesNodes second r' r'') : TakesNodes (first ++ second) r r'' := by
  obtain ⟨later, said, same⟩ := one.properties
  obtain ⟨last, said', same'⟩ := other.properties
  constructor
  · rw [sizeTexts, elementsOf_append, List.flatMap_append]
    exact one.keySize.append other.keySize
  · refine ⟨later ++ last, ?_, by rw [same', same, List.append_assoc]⟩
    rw [propertyElements, elementsOf_append, List.flatMap_append]
    exact List.rel_append said said'

theorem takes_element {space : Option String} {label : String} {tag : Tag} {inside : Forest}
    {begun : Record} {part : Part} (child : Part.child [] space label = part)
    (entered : r.enter [] space label tag = .ok (begun, part))
    (ran : begun.absorbAll [part] inside = .ok r') :
    TakesNodes [.element space label tag inside] r r' := by
  obtain ⟨size, properties, begins⟩ := enter_record entered
  have methods : elementsOf [] .method [.element space label tag inside] =
      if part = .method then [(tag, inside)] else [] := by rw [elementsOf_element, child]
  have lists : elementsOf [] .properties [.element space label tag inside] =
      if part = .properties then [(tag, inside)] else [] := by rw [elementsOf_element, child]
  rcases begins with rfl | unnumbered | ⟨rfl, list⟩
  · obtain ⟨said, same⟩ := takes_method ran
    constructor
    · rw [sizeTexts, methods, if_pos rfl, List.flatMap_singleton, ← size]
      exact said
    · rw [propertyElements, lists, if_neg nofun, same, properties]
      exact ⟨[], .nil, (List.append_nil _).symm⟩
  · obtain ⟨size', same⟩ := (absorbAll_unnumbered unnumbered inside _ _ ran).none
    have noMethod : part ≠ .method := by
      rintro rfl
      exact absurd unnumbered (by decide)
    have noList : part ≠ .properties := by
      rintro rfl
      exact absurd unnumbered (by decide)
    refine .nil ?_ ?_ (size'.trans size) (by rw [same, properties])
    · rw [sizeTexts, methods, if_neg noMethod, List.flatMap_nil]
    · rw [propertyElements, lists, if_neg noList, List.flatMap_nil]
  · obtain ⟨size', more⟩ := takes_properties ran
    obtain ⟨later, said, same⟩ := more _ list
    constructor
    · rw [sizeTexts, methods, if_neg nofun, size', size]
      exact .nil
    · rw [propertyElements, lists, if_pos rfl, List.flatMap_singleton, same, Option.getD_some]
      exact ⟨later, said, rfl⟩

theorem takes_nodes (ran : r.absorbAll [] nodes = .ok r') : TakesNodes nodes r r' := by
  refine absorbAll_induction _ TakesNodes (fun r => .nil rfl rfl rfl rfl) ?_ ?_ ran
  · intro node r r' read
    rcases absorb_cases (by decide) read with ⟨rfl, none⟩ | ⟨space, label, tag, inside, begun, rfl,
      -, entered, ran⟩
    · have methods := none .method nofun
      have lists := none .properties nofun
      exact .nil (by rw [sizeTexts, methods]; rfl) (by rw [propertyElements, lists]; rfl) rfl rfl
    · exact takes_element rfl entered ran
  · intro first second r r' r'' one other
    exact one.append other

end Levels

theorem numbersOf_ofElement {e : Element} {r : Record} (read : Record.ofElement e = .ok r) :
    NumbersOf e r := by
  obtain ⟨begun, start, ran⟩ := ok_of_bind read
  obtain ⟨values, _, start⟩ := ok_of_bind start
  cases start
  obtain ⟨size, later, said, same⟩ := takes_nodes ran
  refine ⟨size, ?_⟩
  rw [same]
  exact said

/-! ## Documents -/

theorem outermostOf_texts {nodes : Forest} (texts : ∀ node ∈ nodes, ∃ content, node = .text content) :
    outermostOf nodes = [] := by
  induction nodes with
  | nil => rfl
  | cons node rest ih =>
    obtain ⟨⟨content, rfl⟩, others⟩ := List.forall_mem_cons.mp texts
    exact ih others

theorem HasRoot.outermostOf {nodes inside behind : Forest} {tag : Tag}
    (root : HasRoot nodes tag inside behind) :
    outermostOf nodes = outermostOf (inside ++ behind) := by
  obtain ⟨before, rfl, texts⟩ := root
  have other : ¬ IsRecord (some containerSpace) "encryption" := by
    rintro ⟨-, label⟩
    exact absurd label (by decide)
  rw [outermostOf_append, outermostOf_texts texts, outermostOf_append]
  simp only [Encryption.outermostOf, outermost, if_neg other, List.nil_append]

/-- An accepted document gives one record for each record element that stands in no other one. -/
theorem recordsOf_forest {text : String} {found : Manifest} (read : Manifest.read text = .ok found) :
    AreRecordsOf (outermostOf (Xml.forest text)) found := by
  obtain ⟨p, ran, ended⟩ := ok_of_bind read
  have ends : p.finish = .ok found := by
    split at ended
    · cases ended
    · exact ended
  have between : p = ⟨.between, p.records⟩ := by
    obtain ⟨position, records⟩ := p
    cases position with
    | between => rfl
    | _ => cases ends
  obtain ⟨left, events⟩ := Xml.events_forest text
  have whole : Progress.after {} (Forest.events (Xml.forest text)) = .ok p := by
    have ran : Progress.after {} (Xml.events text).1 = .ok p := ran
    rw [events, after_append, ran, between]
    exact after_stops p.records left
  obtain ⟨tag, inside, behind, root, records⟩ := hasRoot_of_after whole ends
  rwa [root.outermostOf]

theorem numbers_of_read {text : String} {found : Manifest} (read : Manifest.read text = .ok found) :
    List.Forall₂ NumbersOf (outermostOf (Xml.forest text)) found := by
  have same : List.Forall₂ Eq ((outermostOf (Xml.forest text)).map Record.ofElement)
      (found.map .ok) := by
    rw [List.forall₂_eq_eq_eq]
    exact recordsOf_forest read
  have each := List.forall₂_map_right_iff.mp (List.forall₂_map_left_iff.mp same)
  exact each.imp fun e r made => numbersOf_ofElement made

theorem refused_of_illegible {text : String} {e : Element}
    (listed : e ∈ outermostOf (Xml.forest text)) (illegible : ¬ Legible e) :
    ∃ fault, Manifest.read text = .error (.format fault) := by
  cases read : Manifest.read text with
  | error e =>
    obtain ⟨fault, rfl⟩ := formatOnly_read _ _ read
    exact ⟨fault, rfl⟩
  | ok found =>
    obtain ⟨r, numbers⟩ := exists_said (numbers_of_read read) e listed
    exact absurd numbers.legible illegible

end Bindery.Encryption
