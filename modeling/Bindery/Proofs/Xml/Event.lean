import Bindery.Proofs.Xml.Outline
import Bindery.Xml.Event

/-! Outlines as events. Where no attribute declares a namespace, an outline passes through any nest
and leaves it as it was; the events that it makes depend on the scope alone. -/
namespace Bindery.Xml

/-- Attributes with plain names, none of which declares a namespace. -/
structure Values.Inner (values : Values) : Prop where
  plain : values.Plain
  undeclaring : ∀ name ∈ values.map Prod.fst, "xmlns".toList.isPrefixOf name.toList = false

theorem Values.inner_of_names {values : Values} (names : List String)
    (written : values.map Prod.fst = names)
    (ordinary : ∀ name ∈ names, PlainName name ∧ "xmlns".toList.isPrefixOf name.toList = false)
    (distinct : names.Nodup) : values.Inner := by
  subst written
  exact ⟨⟨fun name member => (ordinary name member).1, distinct⟩,
    fun name member => (ordinary name member).2⟩

theorem Values.inner_nil : Values.Inner [] :=
  Values.inner_of_names [] rfl (by decide) (by decide)

/-- Outlines inside a root element: put together from elements that declare no namespace. -/
inductive Outline.Inner : Outline → Prop where
  | nil : Inner []
  | append {first second : Outline} : Inner first → Inner second → Inner (first ++ second)
  | leaf {name : String} {values : Values} :
      PlainName name → values.Inner → Inner (Outline.leaf name values)
  | text {name content : String} :
      PlainName name → SolidText content → Inner (Outline.text name content)
  | nest {name : String} {values : Values} {inside : Outline} :
      PlainName name → values.Inner → Inner inside → Inner (Outline.nest name values inside)

theorem Outline.Inner.flatMap {α : Type} (items : List α) (part : α → Outline)
    (inner : ∀ item ∈ items, (part item).Inner) : Outline.Inner (items.flatMap part) := by
  induction items with
  | nil => exact .nil
  | cons item items ih =>
    rw [List.flatMap_cons]
    exact .append (inner item List.mem_cons_self)
      (ih fun i hi => inner i (List.mem_cons_of_mem item hi))

theorem Outline.plain_nest {name : String} {values : Values} {inside : Outline}
    (plain : PlainName name) (plainValues : values.Plain) (plainInside : inside.Plain) :
    (Outline.nest name values inside).Plain := by
  intro line member
  simp only [Outline.nest, List.mem_append, List.mem_cons, List.mem_map, List.not_mem_nil,
    or_false] at member
  rcases member with (rfl | ⟨inner, listed, rfl⟩) | rfl
  · exact ⟨plain, plainValues⟩
  · exact plainInside inner listed
  · exact plain

theorem Outline.Inner.plain {outline : Outline} (inner : outline.Inner) : outline.Plain := by
  induction inner with
  | nil => intro line member; cases member
  | append _ _ plainFirst plainSecond =>
    intro line member
    rcases List.mem_append.mp member with member | member
    · exact plainFirst line member
    · exact plainSecond line member
  | leaf plain values =>
    intro line member
    obtain rfl := List.mem_singleton.mp member
    exact ⟨plain, values.plain⟩
  | text plain solid =>
    intro line member
    obtain rfl := List.mem_singleton.mp member
    exact ⟨plain, solid⟩
  | nest plain values _ plainInside => exact Outline.plain_nest plain values.plain plainInside

theorem Attribute.binding_eq_none {a : Attribute}
    (other : "xmlns".toList.isPrefixOf a.name = false) : a.binding? = none := by
  have notDefault : a.name ≠ "xmlns".toList := by
    intro same
    rw [same] at other
    exact absurd other (by decide)
  have notPrefixed : "xmlns:".toList.isPrefixOf a.name = false := by
    apply Bool.eq_false_iff.mpr
    intro starts
    have shorter : "xmlns".toList <+: "xmlns:".toList := by decide
    have declares := List.isPrefixOf_iff_prefix.mpr
      (shorter.trans (List.isPrefixOf_iff_prefix.mp starts))
    exact Bool.false_ne_true (other.symm.trans declares)
  rw [Attribute.binding?, if_neg notDefault, notPrefixed, if_neg Bool.false_ne_true]

theorem enter_declaring (scope : Scope) (name : String) {values : Values} {declared : List Binding}
    (plain : values.Plain)
    (found : (values.present.map Attribute.ofValue).filterMap Attribute.binding? = declared)
    (allowed : ∀ b ∈ declared, b.allowed = true) :
    scope.enter (tagOf name values) = .ok (declared.reverse ++ scope) := by
  apply enter_of_allowed _ allowed
  rw [tagOf, attributes_render values plain, found]

theorem Values.Inner.undeclared {values : Values} (inner : values.Inner) :
    (values.present.map Attribute.ofValue).filterMap Attribute.binding? = [] := by
  apply List.filterMap_eq_nil_iff.mpr
  intro a member
  obtain ⟨item, present, rfl⟩ := List.mem_map.mp member
  exact Attribute.binding_eq_none (inner.undeclaring item.1 (mem_names_of_mem_present present))

theorem enter_inner (scope : Scope) (name : String) {values : Values} (inner : values.Inner) :
    scope.enter (tagOf name values) = .ok scope :=
  enter_declaring scope name inner.plain inner.undeclared (by simp)

def Piece.events (scope : Scope) : Piece → List Event
  | opening name values => [scope.start (tagOf name values)]
  | empty name values => [scope.start (tagOf name values), .stop]
  | closing _ => [.stop]
  | text name content => [scope.start (tagOf name []), .text content.toList, .stop]

def Outline.events (scope : Scope) (outline : Outline) : List Event :=
  outline.flatMap (·.piece.events scope)

@[simp] theorem Outline.events_append (scope : Scope) (first second : Outline) :
    Outline.events scope (first ++ second) = first.events scope ++ second.events scope := by
  simp [Outline.events]

@[simp] theorem Outline.events_nest (scope : Scope) (name : String) (values : Values)
    (inside : Outline) :
    (Outline.nest name values inside).events scope =
      scope.start (tagOf name values) :: inside.events scope ++ [.stop] := by
  simp [Outline.nest, Outline.events, Piece.events, List.flatMap_map]

theorem step_opening (nest : Nest) (tag : Tag) : nest.step (.opening tag) =
    (nest.scope.enter tag).map fun scope => ((tag.name, scope) :: nest, [scope.start tag]) := by
  rw [Nest.step]
  cases nest.scope.enter tag <;> rfl

theorem step_empty (nest : Nest) (tag : Tag) : nest.step (.empty tag) =
    (nest.scope.enter tag).map fun scope => (nest, [scope.start tag, .stop]) := by
  rw [Nest.step]
  cases nest.scope.enter tag <;> rfl

theorem nest_step_opening {nest : Nest} {scope inside : Scope} {tag : Tag}
    (same : nest.scope = scope) (entered : scope.enter tag = .ok inside) :
    nest.step (.opening tag) = .ok ((tag.name, inside) :: nest, [inside.start tag]) := by
  rw [step_opening, same, entered]
  rfl

theorem nest_step_empty {nest : Nest} {scope inside : Scope} {tag : Tag}
    (same : nest.scope = scope) (entered : scope.enter tag = .ok inside) :
    nest.step (.empty tag) = .ok (nest, [inside.start tag, .stop]) := by
  rw [step_empty, same, entered]
  rfl

theorem nest_step_closing (nest : Nest) (name : String) (scope : Scope) :
    Nest.step ((name, scope) :: nest) (.closing name) = .ok (nest, [.stop]) := by
  simp [Nest.step]

/-- An inner outline makes its events in every nest with the scope and leaves the nest behind it as
it was in front of it. -/
theorem eventsFrom_inner {outline : Outline} (inner : outline.Inner) (scope : Scope) (nest : Nest)
    (same : nest.scope = scope) (seen : List Event) (fault : Option MarkupFault)
    (rest : List Token) :
    eventsFrom nest seen fault (outline.tokens ++ rest) =
      eventsFrom nest ((outline.events scope).reverse ++ seen) fault rest := by
  induction inner generalizing nest seen rest with
  | nil => rfl
  | append _ _ first second =>
    rw [Outline.tokens_append, List.append_assoc, first nest same, second nest same]
    simp
  | @leaf name values _ values' =>
    have step := nest_step_empty same (enter_inner scope name values')
    simp only [Outline.leaf, Outline.tokens, Piece.tokens, List.flatMap_cons, List.flatMap_nil,
      List.append_nil, List.singleton_append]
    rw [eventsFrom, step]
    rfl
  | @text name content _ _ =>
    have start := nest_step_opening same (enter_inner scope name Values.inner_nil)
    have within : Nest.step ((name, scope) :: nest) (.text content.toList) =
        .ok ((name, scope) :: nest, [.text content.toList]) := rfl
    simp only [Outline.text, Outline.tokens, Piece.tokens, List.flatMap_cons, List.flatMap_nil,
      List.append_nil, List.cons_append, List.nil_append]
    rw [eventsFrom, start]
    simp only [tagOf]
    rw [eventsFrom, within]
    simp only []
    rw [eventsFrom, nest_step_closing]
    rfl
  | @nest name values inside _ values' _ ih =>
    have start := nest_step_opening same (enter_inner scope name values')
    rw [Outline.tokens_nest, List.cons_append, List.cons_append, eventsFrom, start]
    simp only [List.append_assoc, tagOf]
    rw [ih ((name, scope) :: nest) rfl, List.singleton_append, eventsFrom, nest_step_closing]
    simp [tagOf]

theorem eventsFrom_root {name : String} {values : Values} {scope : Scope} {inside : Outline}
    (entered : Scope.enter [] (tagOf name values) = .ok scope) (inner : inside.Inner) :
    eventsFrom [] [] none (Outline.nest name values inside).tokens =
      ((Outline.nest name values inside).events scope, none) := by
  have start := nest_step_opening (show Nest.scope [] = [] from rfl) entered
  rw [Outline.tokens_nest, List.cons_append, eventsFrom, start]
  simp only [tagOf]
  rw [eventsFrom_inner inner scope [(name, scope)] rfl, eventsFrom, nest_step_closing]
  simp [eventsFrom, tagOf]

theorem eventsFrom_root_leaf {name : String} {values : Values} {scope : Scope}
    (entered : Scope.enter [] (tagOf name values) = .ok scope) :
    eventsFrom [] [] none (Outline.leaf name values).tokens =
      ((Outline.leaf name values).events scope, none) := by
  have step := nest_step_empty (show Nest.scope [] = [] from rfl) entered
  simp only [Outline.leaf, Outline.tokens, Piece.tokens, List.flatMap_cons, List.flatMap_nil,
    List.append_nil]
  rw [eventsFrom, step]
  rfl

end Bindery.Xml
