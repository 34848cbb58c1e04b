import Bindery.Xml.Namespace
import Bindery.Xml.Token

/-! Tags as texts. What a tag is made of is taken from the markup standard and from that of its
namespaces, with wider classes where the narrower ones make no difference. A tag is read as its name
and its attributes, whatever blanks stand between them. -/
namespace Bindery.Xml

/-! ## The grammar of tags -/

def nameEnds : List Char := ['<', '>', '&', '/', '=', '?', '!']

def isNameChar (c : Char) : Bool := ! (isXmlBlank c || isQuote c || nameEnds.contains c)

def IsName (name : List Char) : Prop := name ≠ [] ∧ ∀ c ∈ name, isNameChar c = true

instance (name : List Char) : Decidable (IsName name) :=
  decidable_of_iff (name ≠ [] ∧ name.all isNameChar = true) (by simp [IsName])

def AllBlank (cs : List Char) : Prop := ∀ c ∈ cs, isXmlBlank c = true

instance (cs : List Char) : Decidable (AllBlank cs) :=
  decidable_of_iff (cs.all isXmlBlank = true) List.all_eq_true

/-- An attribute in a tag: behind some blanks a name, an equals sign, which may have blanks around
it, and a value between two quotes. -/
structure TagAttribute where
  gap : List Char
  name : List Char
  left : List Char
  right : List Char
  quote : Char
  value : List Char

def TagAttribute.written (a : TagAttribute) : List Char :=
  a.gap ++ (a.name ++ (a.left ++ '=' :: (a.right ++ a.quote :: (a.value ++ [a.quote]))))

def TagAttribute.attribute (a : TagAttribute) : Attribute := ⟨a.name, a.value⟩

structure TagAttribute.WellFormed (a : TagAttribute) : Prop where
  apart : a.gap ≠ []
  gap : AllBlank a.gap
  name : IsName a.name
  left : AllBlank a.left
  right : AllBlank a.right
  quote : a.quote = '"' ∨ a.quote = '\''
  value : a.quote ∉ a.value

/-- What a tag that begins an element holds. -/
structure StartTag where
  name : List Char
  attributes : List TagAttribute
  gap : List Char

def StartTag.behindName (t : StartTag) : List Char :=
  t.attributes.flatMap TagAttribute.written ++ t.gap

def StartTag.inside (t : StartTag) : List Char := t.name ++ t.behindName

structure StartTag.WellFormed (t : StartTag) : Prop where
  name : IsName t.name
  attributes : ∀ a ∈ t.attributes, a.WellFormed
  gap : AllBlank t.gap

def StartTag.declared (t : StartTag) : List Binding :=
  t.attributes.filterMap fun a => a.attribute.binding?

/-- Tags that also take no reserved prefix and no reserved name for another. -/
structure StartTag.NamespaceWellFormed (t : StartTag) : Prop extends t.WellFormed where
  reserved : ∀ b ∈ t.declared, b.allowed = true

def StartTag.opening (t : StartTag) : List Char := '<' :: (t.inside ++ ['>'])

def StartTag.empty (t : StartTag) : List Char := '<' :: (t.inside ++ ['/', '>'])

def StartTag.closing (t : StartTag) (gap : List Char) : List Char :=
  '<' :: '/' :: (t.name ++ (gap ++ ['>']))

theorem isNameChar_ne {c d : Char} (name : isNameChar c = true) (other : isNameChar d = false) :
    c ≠ d := by
  rintro rfl
  exact Bool.false_ne_true (other.symm.trans name)

theorem isNameChar_not_blank {c : Char} (name : isNameChar c = true) : isXmlBlank c = false := by
  simp only [isNameChar, Bool.not_eq_true', Bool.or_eq_false_iff] at name
  exact name.1.1

theorem isNameChar_not_quote {c : Char} (name : isNameChar c = true) : isQuote c = false := by
  simp only [isNameChar, Bool.not_eq_true', Bool.or_eq_false_iff] at name
  exact name.1.2

theorem IsName.not_mem {name : List Char} (named : IsName name) {d : Char}
    (other : isNameChar d = false) : d ∉ name := fun member =>
  isNameChar_ne (named.2 d member) other rfl

theorem IsName.exists_cons {name : List Char} (named : IsName name) :
    ∃ c cs, name = c :: cs ∧ isNameChar c = true := by
  cases name with
  | nil => exact absurd rfl named.1
  | cons c cs => exact ⟨c, cs, rfl, named.2 c List.mem_cons_self⟩

/-! ## Prefixes of names -/

theorem cutFrom_colon (seen label rest : List Char) (absent : ':' ∉ label) :
    cutFrom? [':'] seen (label ++ ':' :: rest) = some (seen.reverse ++ label, rest) := by
  induction label generalizing seen with
  | nil => simp [cutFrom?]
  | cons c label ih =>
    have other : ':' ≠ c := fun same => absent (same ▸ List.mem_cons_self)
    have later := ih (c :: seen) fun member => absent (List.mem_cons_of_mem c member)
    simp [cutFrom?, other, later]

theorem cutFrom_none (seen : List Char) {name : List Char} (absent : ':' ∉ name) :
    cutFrom? [':'] seen name = none := by
  induction name generalizing seen with
  | nil => rfl
  | cons c name ih =>
    have other : ':' ≠ c := fun same => absent (same ▸ List.mem_cons_self)
    have later := ih (c :: seen) fun member => absent (List.mem_cons_of_mem c member)
    simp [cutFrom?, other, later]

def joinName : Option (List Char) → List Char → List Char
  | some label, rest => label ++ ':' :: rest
  | none, rest => rest

theorem splitName_some {label : List Char} (rest : List Char) (absent : ':' ∉ label) :
    splitName (label ++ ':' :: rest) = (some label, rest) := by
  rw [splitName, cut?, cutFrom_colon [] label rest absent]
  rfl

theorem splitName_none {name : List Char} (absent : ':' ∉ name) :
    splitName name = (none, name) := by
  rw [splitName, cut?, cutFrom_none [] absent]

theorem name_cases (name : List Char) :
    (∃ label rest, name = label ++ ':' :: rest ∧ ':' ∉ label) ∨ ':' ∉ name := by
  by_cases colon : ':' ∈ name
  · obtain ⟨label, rest, parts, absent⟩ := List.eq_append_cons_of_mem colon
    exact .inl ⟨label, rest, parts, absent⟩
  · exact .inr colon

/-! ## Attributes -/

theorem attributesFrom_name (seen : List Attribute) (part cs rest : List Char)
    (inside : ∀ c ∈ cs, c ≠ '=' ∧ isXmlBlank c = false) :
    attributesFrom (.name part) seen (cs ++ rest) =
      attributesFrom (.name (cs.reverse ++ part)) seen rest := by
  induction cs generalizing part with
  | nil => rfl
  | cons c cs ih =>
    have here := inside c List.mem_cons_self
    have step : AttributePlace.step (.name part) c = .ok (.name (c :: part), none) := by
      simp [AttributePlace.step, here.1, here.2]
    rw [List.cons_append, attributesFrom, step]
    simpa using ih (c :: part) fun d hd => inside d (List.mem_cons_of_mem c hd)

theorem attributesFrom_quoted (seen : List Attribute) (name part cs rest : List Char) {quote : Char}
    (inside : quote ∉ cs) :
    attributesFrom (.quoted name quote part) seen (cs ++ rest) =
      attributesFrom (.quoted name quote (cs.reverse ++ part)) seen rest := by
  induction cs generalizing part with
  | nil => rfl
  | cons c cs ih =>
    have other : c ≠ quote := fun same => inside (same ▸ List.mem_cons_self)
    have step : AttributePlace.step (.quoted name quote part) c =
        .ok (.quoted name quote (c :: part), none) := by
      simp [AttributePlace.step, other]
    rw [List.cons_append, attributesFrom, step]
    simpa using ih (c :: part) fun member => inside (List.mem_cons_of_mem c member)

theorem attributesFrom_blanks {place : AttributePlace} (seen : List Attribute)
    (stays : ∀ c, isXmlBlank c = true → place.step c = .ok (place, none)) (blanks rest : List Char)
    (blank : ∀ c ∈ blanks, isXmlBlank c = true) :
    attributesFrom place seen (blanks ++ rest) = attributesFrom place seen rest := by
  induction blanks with
  | nil => rfl
  | cons c blanks ih =>
    rw [List.cons_append, attributesFrom, stays c (blank c List.mem_cons_self)]
    exact ih fun d member => blank d (List.mem_cons_of_mem c member)

theorem attributesFrom_named (seen : List Attribute) {name : List Char} (left rest : List Char)
    (named : name ≠ []) (solid : ∀ c ∈ name, c ≠ '=' ∧ isXmlBlank c = false)
    (blank : ∀ c ∈ left, isXmlBlank c = true) :
    attributesFrom .gap seen (name ++ (left ++ '=' :: rest)) =
      attributesFrom (.value name) seen rest := by
  cases name with
  | nil => exact absurd rfl named
  | cons c cs =>
    have first : AttributePlace.step .gap c = .ok (.name [c], none) := by
      simp [AttributePlace.step, (solid c List.mem_cons_self).2]
    have part : cs.reverse ++ [c] = (c :: cs).reverse := List.reverse_cons.symm
    rw [List.cons_append, attributesFrom, first]
    simp only [Option.toList_none, List.nil_append]
    rw [attributesFrom_name _ _ _ _ fun d member => solid d (List.mem_cons_of_mem c member), part]
    cases left with
    | nil => simp [attributesFrom, AttributePlace.step]
    | cons d left =>
      have blankFirst := blank d List.mem_cons_self
      have apart : d ≠ '=' := by
        rintro rfl
        exact absurd blankFirst (by decide)
      have ends : AttributePlace.step (.name (c :: cs).reverse) d =
          .ok (.equals (c :: cs), none) := by
        simp [AttributePlace.step, apart, blankFirst]
      have stays : ∀ b, isXmlBlank b = true →
          AttributePlace.step (.equals (c :: cs)) b = .ok (.equals (c :: cs), none) := by
        intro b blank
        simp [AttributePlace.step, blank]
      have equals : AttributePlace.step (.equals (c :: cs)) '=' =
          .ok (.value (c :: cs), none) := rfl
      rw [List.cons_append, attributesFrom, ends]
      simp only [Option.toList_none, List.nil_append]
      rw [attributesFrom_blanks _ stays _ _ fun b member => blank b (List.mem_cons_of_mem d member),
        attributesFrom, equals]
      rfl

theorem attributesFrom_value (seen : List Attribute) (name right : List Char) {value : List Char}
    {quote : Char} (rest : List Char) (blank : ∀ c ∈ right, isXmlBlank c = true)
    (mark : quote = '"' ∨ quote = '\'') (inside : quote ∉ value) :
    attributesFrom (.value name) seen (right ++ quote :: (value ++ quote :: rest)) =
      attributesFrom .gap (⟨name, value⟩ :: seen) rest := by
  have stays : ∀ b, isXmlBlank b = true →
      AttributePlace.step (.value name) b = .ok (.value name, none) := by
    intro b blank
    simp [AttributePlace.step, blank]
  have opening : AttributePlace.step (.value name) quote = .ok (.quoted name quote [], none) := by
    rcases mark with rfl | rfl <;> rfl
  have closing : AttributePlace.step (.quoted name quote value.reverse) quote =
      .ok (.gap, some ⟨name, value⟩) := by
    simp [AttributePlace.step]
  rw [attributesFrom_blanks _ stays _ _ blank, attributesFrom, opening]
  simp only [Option.toList_none, List.nil_append]
  rw [attributesFrom_quoted _ _ _ _ _ inside, List.append_nil, attributesFrom, closing]
  rfl

/-! ## What a tag is read as -/

def StartTag.tag (t : StartTag) : Tag := ⟨spell t.name, t.behindName⟩

def StartTag.scope (t : StartTag) (outer : Scope) : Scope := t.declared.reverse ++ outer

section Tags

variable {t : StartTag} {gap : List Char}

theorem StartTag.WellFormed.behindName_blank (formed : t.WellFormed) :
    ∀ c ∈ t.behindName.head?, isXmlBlank c = true := by
  intro c first
  have member : c ∈ t.behindName.head? := first
  rw [behindName] at member
  cases written : t.attributes with
  | nil =>
    rw [written] at member
    exact formed.gap c (List.mem_of_mem_head? member)
  | cons a attributes =>
    have begins := formed.attributes a (written ▸ List.mem_cons_self)
    rw [written, List.flatMap_cons, TagAttribute.written] at member
    cases blanks : a.gap with
    | nil => exact absurd blanks begins.apart
    | cons d gap =>
      rw [blanks] at member
      obtain rfl : d = c := Option.some.inj member
      exact begins.gap d (blanks ▸ List.mem_cons_self)

theorem TagAttribute.WellFormed.getLast_written {a : TagAttribute} (formed : a.WellFormed) :
    a.written.getLast? ≠ some '/' := by
  have form : a.written =
      (a.gap ++ (a.name ++ (a.left ++ '=' :: (a.right ++ a.quote :: a.value)))) ++ [a.quote] := by
    simp [TagAttribute.written]
  rw [form, List.getLast?_concat]
  intro same
  have last : a.quote = '/' := Option.some.inj same
  rcases formed.quote with quote | quote
  · exact absurd (quote.symm.trans last) (by decide)
  · exact absurd (quote.symm.trans last) (by decide)

/-- No slash ends a start tag, unless it is the one of an empty element. -/
theorem StartTag.WellFormed.getLast_inside (formed : t.WellFormed) :
    t.inside.getLast? ≠ some '/' := by
  intro last
  rw [inside, behindName, List.getLast?_append, List.getLast?_append] at last
  cases blanks : t.gap.getLast? with
  | some c =>
    rw [blanks] at last
    obtain rfl : c = '/' := Option.some.inj last
    exact absurd (formed.gap _ (List.mem_of_getLast? blanks)) (by decide)
  | none =>
    rw [blanks, Option.none_or] at last
    rcases List.eq_nil_or_concat t.attributes with none | ⟨front, a, split⟩
    · rw [none] at last
      exact formed.name.not_mem (by decide) (List.mem_of_getLast? last)
    · have ends := formed.attributes a (by simp [split])
      rw [split, List.concat_eq_append, List.flatMap_append, List.flatMap_singleton,
        List.getLast?_append] at last
      cases written : a.written.getLast? with
      | some c =>
        rw [written] at last
        exact ends.getLast_written (written.trans last)
      | none =>
        have whole := List.getLast?_eq_none_iff.mp written
        simp [TagAttribute.written] at whole

theorem StartTag.WellFormed.ofInside_tag (formed : t.WellFormed) :
    Tag.ofInside t.inside = t.tag := by
  have solid : ∀ c ∈ t.name, (! isXmlBlank c) = true := by
    intro c member
    simp [isNameChar_not_blank (formed.name.2 c member)]
  have blank := formed.behindName_blank
  rw [Tag.ofInside, inside, List.takeWhile_append_of_pos solid, List.dropWhile_append_of_pos solid,
    tag]
  cases behind : t.behindName with
  | nil => simp
  | cons c rest =>
    rw [behind] at blank
    simp [blank c rfl]

theorem StartTag.WellFormed.not_slash (formed : t.WellFormed) (rest inside : List Char) :
    t.inside ++ rest ≠ '/' :: inside := by
  obtain ⟨c, cs, letters, letter⟩ := formed.name.exists_cons
  intro same
  rw [StartTag.inside, letters] at same
  exact isNameChar_ne letter (by decide) (List.cons.inj same).1

theorem StartTag.WellFormed.ofInside_opening (formed : t.WellFormed) :
    Token.ofInside t.inside = .opening t.tag := by
  unfold Token.ofInside
  split
  · rename_i inside same
    exact absurd (by rwa [List.append_nil]) (formed.not_slash [] inside)
  · rw [if_neg formed.getLast_inside, formed.ofInside_tag]

theorem StartTag.WellFormed.ofInside_empty (formed : t.WellFormed) :
    Token.ofInside (t.inside ++ ['/']) = .empty t.tag := by
  unfold Token.ofInside
  split
  · rename_i inside same
    exact absurd same (formed.not_slash _ inside)
  · rw [if_pos List.getLast?_concat, List.dropLast_concat, formed.ofInside_tag]

theorem IsName.ofInside_closing {name : List Char} (named : IsName name) (blank : AllBlank gap) :
    Token.ofInside ('/' :: (name ++ gap)) = .closing (spell name) := by
  have kept : trimEnd isXmlBlank name = name := by
    obtain ⟨front, c, rfl⟩ := (List.eq_nil_or_concat name).resolve_left named.1
    rw [List.concat_eq_append]
    exact trimEnd_concat isXmlBlank front (isNameChar_not_blank (named.2 c (by simp)))
  obtain ⟨c, cs, rfl, -⟩ := named.exists_cons
  simp only [Token.ofInside, closingName, trimEnd_append isXmlBlank _ blank, kept]

theorem step_gap {c : Char} (blank : isXmlBlank c = true) :
    AttributePlace.step .gap c = .ok (.gap, none) := by
  simp [AttributePlace.step, blank]

theorem attributesFrom_gap (seen : List Attribute) (blanks : List Char) (blank : AllBlank blanks) :
    attributesFrom .gap seen blanks = (seen.reverse, none) := by
  have ends := attributesFrom_blanks seen (fun _ => step_gap) blanks [] blank
  rw [List.append_nil] at ends
  rw [ends]
  rfl

theorem TagAttribute.WellFormed.attributesFrom {a : TagAttribute} (formed : a.WellFormed)
    (seen : List Attribute) (rest : List Char) :
    Xml.attributesFrom .gap seen (a.written ++ rest) =
      Xml.attributesFrom .gap (a.attribute :: seen) rest := by
  have solid : ∀ c ∈ a.name, c ≠ '=' ∧ isXmlBlank c = false := fun c member =>
    ⟨isNameChar_ne (formed.name.2 c member) (by decide),
      isNameChar_not_blank (formed.name.2 c member)⟩
  simp only [TagAttribute.written, List.append_assoc, List.cons_append, List.nil_append]
  rw [attributesFrom_blanks seen (fun _ => step_gap) _ _ formed.gap,
    attributesFrom_named seen _ _ formed.name.1 solid formed.left,
    attributesFrom_value seen _ _ _ formed.right formed.quote formed.value,
    TagAttribute.attribute]

theorem attributesFrom_flatMap_written {written : List TagAttribute}
    (formed : ∀ a ∈ written, a.WellFormed) (seen : List Attribute) (rest : List Char) :
    attributesFrom .gap seen (written.flatMap TagAttribute.written ++ rest) =
      attributesFrom .gap ((written.map TagAttribute.attribute).reverse ++ seen) rest := by
  induction written generalizing seen with
  | nil => rfl
  | cons a written ih =>
    rw [List.flatMap_cons, List.append_assoc, (formed a List.mem_cons_self).attributesFrom,
      ih fun b member => formed b (List.mem_cons_of_mem a member)]
    simp

theorem StartTag.WellFormed.attributes_behindName (formed : t.WellFormed) :
    Xml.attributes t.behindName = (t.attributes.map TagAttribute.attribute, none) := by
  rw [Xml.attributes, behindName, attributesFrom_flatMap_written formed.attributes,
    attributesFrom_gap _ _ formed.gap]
  simp

/-- A tag adds the bindings that its attributes declare, the last one innermost. -/
theorem enter_of_allowed {tag : Tag} {declared : List Binding}
    (found : (attributes tag.attributes).1.filterMap Attribute.binding? = declared)
    (allowed : ∀ b ∈ declared, b.allowed = true) (scope : Scope) :
    scope.enter tag = .ok (declared.reverse ++ scope) := by
  have none : declared.find? (! ·.allowed) = none := by
    apply List.find?_eq_none.mpr
    intro b member
    simp [allowed b member]
  simp only [Scope.enter, found, none]

theorem StartTag.NamespaceWellFormed.enter (formed : t.NamespaceWellFormed) (outer : Scope) :
    outer.enter t.tag = .ok (t.scope outer) := by
  have found : (Xml.attributes t.tag.attributes).1.filterMap Attribute.binding? = t.declared := by
    rw [tag, formed.attributes_behindName, List.filterMap_map]
    rfl
  exact enter_of_allowed found formed.reserved outer

end Tags

end Bindery.Xml
