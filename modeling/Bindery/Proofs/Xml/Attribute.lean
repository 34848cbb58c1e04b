import Bindery.Proofs.Xml.Escape
import Bindery.Proofs.Xml.Tag
import Bindery.Xml.Outline

/-! Attributes as an outline writes them. A scan of the written form finds exactly the attributes
that have a value, in order, and each value is read back as it was given. -/
namespace Bindery.Xml

def PlainName (name : String) : Prop :=
  name.toList ≠ [] ∧ ∀ c ∈ name.toList, c.isAlpha = true ∨ c = ':'

instance (name : String) : Decidable (PlainName name) :=
  decidable_of_iff
    (name.toList ≠ [] ∧ name.toList.all (fun c => c.isAlpha || c == ':') = true)
    (by simp [PlainName])

theorem PlainName.each {name : String} (plain : PlainName name) {p : Char → Prop}
    (letter : ∀ c, c.isAlpha = true → p c) (colon : p ':') : ∀ c ∈ name.toList, p c := by
  intro c member
  rcases plain.2 c member with alpha | rfl
  · exact letter c alpha
  · exact colon

theorem ne_of_isAlpha {c d : Char} (alpha : c.isAlpha = true) (other : d.isAlpha = false) :
    c ≠ d := by
  rintro rfl
  simp [alpha] at other

theorem PlainName.not_mem {name : String} (plain : PlainName name) {d : Char}
    (other : d.isAlpha = false) (apart : d ≠ ':') : d ∉ name.toList := fun member =>
  plain.each (p := (· ≠ d)) (fun _ alpha => ne_of_isAlpha alpha other) apart.symm d member rfl

theorem PlainName.not_blank {name : String} (plain : PlainName name) :
    ∀ c ∈ name.toList, isXmlBlank c = false := by
  refine plain.each (fun c alpha => ?_) (by decide)
  have : c ≠ ' ' := ne_of_isAlpha alpha (by decide)
  have : c ≠ '\t' := ne_of_isAlpha alpha (by decide)
  have : c ≠ '\n' := ne_of_isAlpha alpha (by decide)
  have : c ≠ '\r' := ne_of_isAlpha alpha (by decide)
  simp_all [isXmlBlank]

theorem PlainName.not_quote {name : String} (plain : PlainName name) :
    ∀ c ∈ name.toList, isQuote c = false := by
  refine plain.each (fun c alpha => ?_) (by decide)
  have : c ≠ '"' := ne_of_isAlpha alpha (by decide)
  have : c ≠ '\'' := ne_of_isAlpha alpha (by decide)
  simp_all [isQuote]

theorem PlainName.isName {name : String} (plain : PlainName name) : IsName name.toList := by
  refine ⟨plain.1, fun c member => ?_⟩
  have marks : c ∉ nameEnds := by
    intro mark
    have apart : nameEnds.all (fun d => ! d.isAlpha && d != ':') = true := by decide
    obtain ⟨letter, colon⟩ := Bool.and_eq_true_iff.mp (List.all_eq_true.mp apart c mark)
    exact plain.not_mem (Bool.not_eq_eq_eq_not.mp letter) (bne_iff_ne.mp colon) member
  simp [isNameChar, plain.not_blank c member, plain.not_quote c member, marks]

def Attribute.written (a : Attribute) : List Char :=
  ' ' :: a.name ++ '=' :: '"' :: a.raw ++ ['"']

def Values.present (values : Values) : List (String × String) :=
  values.filterMap fun (name, value) => value.map (name, ·)

def Attribute.ofValue (item : String × String) : Attribute :=
  ⟨item.1.toList, item.2.toList.flatMap escapeChar⟩

theorem toList_render_values (values : Values) :
    values.render.toList = (values.present.map Attribute.ofValue).flatMap Attribute.written := by
  induction values with
  | nil => rfl
  | cons item values ih =>
    obtain ⟨name, value⟩ := item
    rw [Values.render] at ih
    cases value with
    | none => simp [Values.render, Values.present, ih]
    | some value =>
      simp [Values.render, Values.present, ih, Attribute.ofValue, Attribute.written]

/-- Attributes whose names are plain and distinct. -/
structure Values.Plain (values : Values) : Prop where
  names : ∀ name ∈ values.map Prod.fst, PlainName name
  distinct : (values.map Prod.fst).Nodup

theorem mem_names_of_mem_present {values : Values} {item : String × String}
    (member : item ∈ values.present) : item.1 ∈ values.map Prod.fst := by
  obtain ⟨⟨name, value⟩, listed, chosen⟩ := List.mem_filterMap.mp member
  obtain ⟨_, _, rfl⟩ := Option.map_eq_some_iff.mp chosen
  exact List.mem_map_of_mem listed

def Values.startTag (values : Values) (name : String) : StartTag where
  name := name.toList
  attributes :=
    (values.present.map Attribute.ofValue).map fun a => ⟨[' '], a.name, [], [], '"', a.raw⟩
  gap := []

theorem behindName_startTag (values : Values) (name : String) :
    (values.startTag name).behindName = values.render.toList := by
  have each : (fun a : Attribute => TagAttribute.written ⟨[' '], a.name, [], [], '"', a.raw⟩) =
      Attribute.written := by
    funext a
    simp [TagAttribute.written, Attribute.written]
  rw [toList_render_values, ← each]
  simp [StartTag.behindName, Values.startTag, List.flatMap_map]

theorem wellFormed_of_names {values : Values} {name : String} (named : IsName name.toList)
    (keys : ∀ key ∈ values.map Prod.fst, IsName key.toList) : (values.startTag name).WellFormed := by
  have blank : AllBlank [] := by decide
  refine ⟨named, ?_, blank⟩
  intro a member
  obtain ⟨_, listed, rfl⟩ := List.mem_map.mp member
  obtain ⟨item, present, rfl⟩ := List.mem_map.mp listed
  have key := keys item.1 (mem_names_of_mem_present present)
  have gap : AllBlank [' '] := by decide
  have unquoted : '"' ∉ item.2.toList.flatMap escapeChar := fun member =>
    absurd (not_isDelimiter_of_mem_escaped member) (by decide)
  exact ⟨List.cons_ne_nil _ _, gap, key, blank, blank, .inl rfl, unquoted⟩

theorem wellFormed_startTag {values : Values} {name : String} (plain : PlainName name)
    (plainValues : values.Plain) : (values.startTag name).WellFormed :=
  wellFormed_of_names plain.isName fun key member => (plainValues.names key member).isName

theorem attributes_startTag {values : Values} {name : String}
    (formed : (values.startTag name).WellFormed) :
    attributes (values.startTag name).tag.attributes =
      (values.present.map Attribute.ofValue, none) := by
  rw [StartTag.tag, formed.attributes_behindName]
  simp [Values.startTag, TagAttribute.attribute]

theorem attributes_render (values : Values) (plain : values.Plain) :
    attributes values.render.toList = (values.present.map Attribute.ofValue, none) := by
  have named : PlainName "tag" := by decide
  have read := attributes_startTag (wellFormed_startTag named plain)
  rwa [StartTag.tag, behindName_startTag] at read

theorem value_ofValue (item : String × String) : (Attribute.ofValue item).value = .ok item.2 := by
  simp [Attribute.value, Attribute.ofValue, unescape_escaped, spell]

theorem fresh_behind {item : String × String} {items : List (String × String)}
    {names : List (List Char)} (distinct : ((item :: items).map Prod.fst).Nodup)
    (fresh : ∀ i ∈ item :: items, i.1.toList ∉ names) :
    ∀ i ∈ items, i.1.toList ∉ (Attribute.ofValue item).name :: names := by
  intro i member here
  rcases List.mem_cons.mp here with same | earlier
  · have same : i.1 = item.1 := String.toList_inj.mp same
    exact (List.nodup_cons.mp distinct).1 (same ▸ List.mem_map_of_mem member)
  · exact fresh i (List.mem_cons_of_mem item member) earlier

theorem contains_fresh {item : String × String} {names : List (List Char)}
    (fresh : item.1.toList ∉ names) : names.contains (Attribute.ofValue item).name = false := by
  simpa [Attribute.ofValue] using fresh

/-- Every written attribute is read back with its value if no name occurs twice. -/
theorem valuesFrom_ofValue (items : List (String × String)) (names : List (List Char))
    (distinct : (items.map Prod.fst).Nodup) (fresh : ∀ item ∈ items, item.1.toList ∉ names) :
    valuesFrom names none (items.map Attribute.ofValue) = .ok items := by
  induction items generalizing names with
  | nil => rfl
  | cons item items ih =>
    have rest := ih _ (List.nodup_cons.mp distinct).2 (fresh_behind distinct fresh)
    rw [List.map_cons, valuesFrom, contains_fresh (fresh item List.mem_cons_self), value_ofValue]
    simp only [bind, Except.bind, rest]
    simp [Attribute.ofValue, spell]

theorem valueFrom_ofValue (name : String) (items : List (String × String))
    (names : List (List Char)) (distinct : (items.map Prod.fst).Nodup)
    (fresh : ∀ item ∈ items, item.1.toList ∉ names) :
    valueFrom? name.toList names none (items.map Attribute.ofValue) = .ok (items.lookup name) := by
  induction items generalizing names with
  | nil => rfl
  | cons item items ih =>
    obtain ⟨n, value⟩ := item
    have rest := ih _ (List.nodup_cons.mp distinct).2 (fresh_behind distinct fresh)
    have same : (Attribute.ofValue (n, value)).name = name.toList ↔ name = n := by
      simp [Attribute.ofValue, String.toList_inj, eq_comm]
    rw [List.map_cons, valueFrom?, contains_fresh (fresh (n, value) List.mem_cons_self),
      value_ofValue]
    by_cases hit : name = n
    · simp [same.mpr hit, hit, Except.map]
    · have other : (name == n) = false := by simpa using hit
      simp [mt same.mp hit, other, List.lookup_cons, rest]

theorem lookup_present (values : Values) (distinct : (values.map Prod.fst).Nodup) (name : String) :
    values.present.lookup name = (values.lookup name).join := by
  induction values with
  | nil => rfl
  | cons item values ih =>
    obtain ⟨n, value⟩ := item
    obtain ⟨apart, distinct⟩ := List.nodup_cons.mp distinct
    have rest := ih distinct
    rw [Values.present] at rest ⊢
    by_cases hit : name = n
    · subst hit
      have absent : values.lookup name = none := by
        rw [List.lookup_eq_none_iff]
        rintro ⟨m, v⟩ member
        have : name ≠ m := by
          rintro rfl
          exact apart (List.mem_map.mpr ⟨(name, v), member, rfl⟩)
        simpa using this
      cases value with
      | some value => simp
      | none => simp [rest, absent]
    · have other : (name == n) = false := by simpa using hit
      cases value with
      | some value => simp [List.lookup_cons, rest, other]
      | none => simp [List.lookup_cons, rest, other]

theorem distinct_present {values : Values} (distinct : (values.map Prod.fst).Nodup) :
    (values.present.map Prod.fst).Nodup := by
  refine distinct.sublist ?_
  induction values with
  | nil => exact .slnil
  | cons item values ih =>
    obtain ⟨name, value⟩ := item
    have rest := ih (List.nodup_cons.mp distinct).2
    rw [Values.present] at rest ⊢
    cases value with
    | none => exact rest.cons name
    | some value => exact rest.cons_cons name

theorem values_render (vs : Values) (plain : vs.Plain) :
    values vs.render.toList = .ok vs.present := by
  have distinct := distinct_present plain.distinct
  simp only [values, attributes_render vs plain]
  exact valuesFrom_ofValue vs.present [] distinct (by simp)

theorem value_render (vs : Values) (plain : vs.Plain) (name : String) :
    value? vs.render.toList name = .ok (vs.lookup name).join := by
  have distinct := distinct_present plain.distinct
  simp only [value?, attributes_render vs plain]
  rw [valueFrom_ofValue name vs.present [] distinct (by simp), lookup_present vs plain.distinct]

end Bindery.Xml
