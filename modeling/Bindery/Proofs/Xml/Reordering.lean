import Bindery.Proofs.Xml.Alike
import Mathlib.Data.List.Nodup

/-! Tags with their attributes in another order. Where no name occurs twice, neither the values of
the attributes nor the bindings that they declare depend on the order, and so it makes no difference
to what comes behind the tag. -/
namespace Bindery.Xml

theorem find?_eq_of_perm {α : Type} {p : α → Bool} {first second : List α}
    (perm : first.Perm second)
    (one : ∀ a ∈ first, ∀ b ∈ first, p a = true → p b = true → a = b) :
    first.find? p = second.find? p := by
  cases found : first.find? p with
  | none =>
    refine (List.find?_eq_none.mpr fun b member => ?_).symm
    exact List.find?_eq_none.mp found b (perm.mem_iff.mpr member)
  | some a =>
    have here : a ∈ second := perm.mem_iff.mp (List.mem_of_find?_eq_some found)
    have fits : p a = true := List.find?_some found
    cases other : second.find? p with
    | none => exact absurd fits (List.find?_eq_none.mp other a here)
    | some b =>
      have there : b ∈ first := perm.mem_iff.mpr (List.mem_of_find?_eq_some other)
      rw [one a (List.mem_of_find?_eq_some found) b there fits (List.find?_some other)]

/-! ## Values -/

/-- Attributes of different names, of which one at most is the default declaration. -/
structure Distinct (found : List Attribute) : Prop where
  names : (found.map Attribute.name).Nodup
  default : "xmlns".toList ∈ found.map Attribute.name → "xmlns:".toList ∉ found.map Attribute.name

instance (found : List Attribute) : Decidable (Distinct found) :=
  decidable_of_iff ((found.map Attribute.name).Nodup ∧ ("xmlns".toList ∈ found.map Attribute.name →
    "xmlns:".toList ∉ found.map Attribute.name)) ⟨fun ⟨names, default⟩ => ⟨names, default⟩,
      fun ⟨names, default⟩ => ⟨names, default⟩⟩

def Fresh (held : List (List Char)) (found : List Attribute) : Prop :=
  (found.map Attribute.name).Nodup ∧ ∀ a ∈ found, a.name ∉ held

theorem fresh_cons {held : List (List Char)} {a : Attribute} {found : List Attribute} :
    Fresh held (a :: found) ↔ a.name ∉ held ∧ Fresh (a.name :: held) found := by
  rw [Fresh, Fresh, List.map_cons, List.nodup_cons, List.forall_mem_cons]
  constructor
  · rintro ⟨⟨apart, distinct⟩, fresh, outside⟩
    refine ⟨fresh, distinct, fun b member listed => ?_⟩
    rcases List.mem_cons.mp listed with same | listed
    · exact apart (same ▸ List.mem_map_of_mem member)
    · exact outside b member listed
  · rintro ⟨fresh, distinct, outside⟩
    refine ⟨⟨fun repeated => ?_, distinct⟩, fresh, fun b member listed => ?_⟩
    · obtain ⟨b, member, same⟩ := List.mem_map.mp repeated
      exact outside b member (same ▸ List.mem_cons_self)
    · exact outside b member (List.mem_cons_of_mem a.name listed)

theorem fresh_nil_iff {found : List Attribute} :
    Fresh [] found ↔ (found.map Attribute.name).Nodup := by
  simp [Fresh]

section Values

variable {found : List Attribute} {held : List (List Char)} {fault : Option AttributeFault}

theorem eq_of_name (distinct : (found.map Attribute.name).Nodup) {a b : Attribute}
    (one : a ∈ found) (other : b ∈ found) (same : a.name = b.name) : a = b :=
  List.inj_on_of_nodup_map distinct one other same

theorem valueFrom_of_fresh (name : List Char) (fresh : Fresh held found) :
    valueFrom? name held fault found =
      match found.find? (·.name = name) with
      | some a => a.value.map some
      | none => valueFrom? name [] fault [] := by
  induction found generalizing held with
  | nil => rfl
  | cons a found ih =>
    obtain ⟨new, later⟩ := fresh_cons.mp fresh
    rw [valueFrom?, if_neg (by simpa using new), List.find?_cons]
    by_cases hit : a.name = name
    · simp [hit]
    · simpa [hit] using ih later

theorem lookup_valuesFrom (name : String) (fresh : Fresh held found) :
    (valuesFrom held fault found).toOption.map (List.lookup name) =
      if fault = none ∧ ∀ a ∈ found, a.value.toOption.isSome = true then
        some ((found.find? (·.name = name.toList)).bind (·.value.toOption))
      else none := by
  induction found generalizing held with
  | nil => cases fault <;> rfl
  | cons a found ih =>
    obtain ⟨new, later⟩ := fresh_cons.mp fresh
    rw [valuesFrom, if_neg (by simpa using new), Renaming.lookup_behind, ih later, List.find?_cons]
    cases read : a.value.toOption with
    | none => simp [read]
    | some value => by_cases hit : a.name = name.toList <;> simp [read, hit]

/-- In what order attributes of different names stand makes no difference to their values. -/
theorem alike_of_perm {first second : Tag}
    (perm : (attributes first.attributes).1.Perm (attributes second.attributes).1)
    (fault : (attributes first.attributes).2 = (attributes second.attributes).2)
    (distinct : ((attributes first.attributes).1.map Attribute.name).Nodup) :
    first.Alike second := by
  have distinct' : ((attributes second.attributes).1.map Attribute.name).Nodup :=
    (perm.map Attribute.name).nodup_iff.mp distinct
  have found (name : List Char) : (attributes first.attributes).1.find? (·.name = name) =
      (attributes second.attributes).1.find? (·.name = name) := by
    refine find?_eq_of_perm perm fun a one b other named named' => ?_
    exact eq_of_name distinct one other
      ((of_decide_eq_true named).trans (of_decide_eq_true named').symm)
  constructor
  · intro name _
    simp only [value?]
    rw [valueFrom_of_fresh name.toList (fresh_nil_iff.mpr distinct),
      valueFrom_of_fresh name.toList (fresh_nil_iff.mpr distinct'), found, fault]
  · intro name _
    simp only [values]
    rw [lookup_valuesFrom name (fresh_nil_iff.mpr distinct),
      lookup_valuesFrom name (fresh_nil_iff.mpr distinct'), found, fault]
    simp only [perm.mem_iff]

end Values

/-! ## How far a search goes -/

/-- The attributes up to the last one that some name is found at, or all of them with the fault at
their end if a name is not found at all. -/
def upTo (names : List (List Char)) (fault : Option AttributeFault) :
    List Attribute → List Attribute × Option AttributeFault
  | [] => ([], if names = [] then none else fault)
  | a :: rest =>
    if names = [] then ([], none)
    else
      let (seen, fault) := upTo (names.filter (· ≠ a.name)) fault rest
      (a :: seen, fault)

def Tag.upTo (t : Tag) (names : List String) : List Attribute × Option AttributeFault :=
  let (found, fault) := Xml.attributes t.attributes
  Xml.upTo (names.map String.toList) fault found

section Searches

variable {names held : List (List Char)} {fault : Option AttributeFault} {found : List Attribute}

theorem valueFrom_upTo {name : List Char} (asked : name ∈ names) :
    valueFrom? name held (upTo names fault found).2 (upTo names fault found).1 =
      valueFrom? name held fault found := by
  have some : names ≠ [] := List.ne_nil_of_mem asked
  induction found generalizing names held with
  | nil => simp only [upTo, if_neg some]
  | cons a found ih =>
    simp only [upTo, if_neg some, valueFrom?]
    by_cases hit : a.name = name
    · simp only [if_pos hit]
    · have left : name ∈ names.filter (· ≠ a.name) :=
        List.mem_filter.mpr ⟨asked, decide_eq_true (Ne.symm hit)⟩
      rw [ih left (List.ne_nil_of_mem left)]

/-- What is looked at has no name twice, unless a search fails. -/
theorem fresh_upTo
    (searches : ∀ name ∈ names, ∃ value, valueFrom? name held fault found = .ok value) :
    Fresh held (upTo names fault found).1 := by
  induction found generalizing names held with
  | nil => simp [upTo, Fresh]
  | cons a found ih =>
    by_cases none : names = []
    · simp [upTo, none, Fresh]
    obtain ⟨name, asked⟩ := List.exists_mem_of_ne_nil names none
    have new : a.name ∉ held := by
      intro listed
      obtain ⟨value, search⟩ := searches name asked
      simp [valueFrom?, listed] at search
    have later : ∀ name ∈ names.filter (· ≠ a.name),
        ∃ value, valueFrom? name (a.name :: held) fault found = .ok value := by
      intro name left
      obtain ⟨asked, other⟩ := List.mem_filter.mp left
      obtain ⟨value, search⟩ := searches name asked
      have apart : a.name ≠ name := Ne.symm (of_decide_eq_true other)
      exact ⟨value, by simpa [valueFrom?, new, apart] using search⟩
    simp only [upTo, if_neg none]
    exact fresh_cons.mpr ⟨new, ih later⟩

/-- A tag all of whose attributes are read has no name twice. -/
theorem fresh_of_valuesFrom {read : List (String × String)}
    (reads : valuesFrom held fault found = .ok read) : Fresh held found := by
  induction found generalizing held read with
  | nil => simp [Fresh]
  | cons a found ih =>
    rw [valuesFrom] at reads
    split at reads
    · cases reads
    · rename_i new
      obtain ⟨value, -, reads⟩ := ok_of_bind reads
      obtain ⟨values, later, -⟩ := ok_of_bind reads
      exact fresh_cons.mpr ⟨by simpa using new, ih later⟩

end Searches

theorem value_eq_of_upTo {first second : Tag} {names : List String}
    (same : first.upTo names = second.upTo names) {name : String} (asked : name ∈ names) :
    value? first.attributes name = value? second.attributes name := by
  have listed : name.toList ∈ names.map String.toList := List.mem_map_of_mem asked
  simp only [Tag.upTo] at same
  simp only [value?]
  rw [← valueFrom_upTo listed, same, valueFrom_upTo listed]

theorem nodup_of_values {tag : Tag} {names : List String}
    (searches : ∀ name ∈ names, ∃ value, value? tag.attributes name = .ok value) :
    ((tag.upTo names).1.map Attribute.name).Nodup := by
  have listed : ∀ name ∈ names.map String.toList, ∃ value,
      valueFrom? name [] (attributes tag.attributes).2 (attributes tag.attributes).1 = .ok value :=
    List.forall_mem_map.mpr searches
  exact fresh_nil_iff.mp (fresh_upTo listed)

/-! ## Bindings -/

def Scope.Agree (first second : Scope) : Prop :=
  ∀ label, first.find? (·.covers label) = second.find? (·.covers label)

theorem Scope.Agree.resolve {first second : Scope} (agree : first.Agree second) (name : String) :
    first.resolve name = second.resolve name := by
  simp only [Scope.resolve, agree (splitName name.toList).1]

theorem Scope.Agree.append {first second : Scope} (agree : first.Agree second)
    (declared : List Binding) : Scope.Agree (declared ++ first) (declared ++ second) := by
  intro label
  rw [List.find?_append, List.find?_append, agree label]

def Tag.declared (t : Tag) : List Binding :=
  (Xml.attributes t.attributes).1.filterMap Attribute.binding?

def Tag.resolved (t : Tag) (outer : Scope) : Option String × String :=
  Scope.resolve (t.declared.reverse ++ outer) t.name

theorem enter_cases (t : Tag) :
    (∃ fault, (∀ scope : Scope, scope.enter t = .error fault) ∧
        ∃ b ∈ t.declared, b.allowed = false) ∨
      (∀ scope : Scope, scope.enter t = .ok (t.declared.reverse ++ scope)) ∧
        ∀ b ∈ t.declared, b.allowed = true := by
  cases found : t.declared.find? (! ·.allowed) with
  | some b =>
    have refused : b.allowed = false := by simpa using List.find?_some found
    refine .inl ⟨.reservedPrefix (spell (b.label.getD [])), fun scope => ?_, b,
      List.mem_of_find?_eq_some found, refused⟩
    rw [Tag.declared] at found
    simp only [Scope.enter, found]
  | none =>
    have allowed : ∀ b ∈ t.declared, b.allowed = true := by
      simpa using List.find?_eq_none.mp found
    have found : (Xml.attributes t.attributes).1.filterMap Attribute.binding? = t.declared := rfl
    exact .inr ⟨enter_of_allowed found allowed, allowed⟩

theorem name_of_binding {a : Attribute} {b : Binding} (declares : a.binding? = some b) :
    a.name = b.label.elim "xmlns".toList ("xmlns:".toList ++ ·) := by
  simp only [Attribute.binding?] at declares
  split at declares
  · rename_i default
    cases declares
    exact default
  · split at declares
    · rename_i prefixed
      cases declares
      obtain ⟨rest, parts⟩ := List.isPrefixOf_iff_prefix.mp prefixed
      rw [← parts]
      rfl
    · cases declares

theorem default_cases {b : Binding} (covers : b.covers none = true) :
    b.label = none ∨ b.label = some [] := by
  obtain ⟨_ | _ | _, space⟩ := b <;> simp_all [Binding.covers]

/-- Of the bindings that distinct attributes declare, one at most is for a given prefix. -/
theorem Distinct.eq_of_covers {found : List Attribute} (distinct : Distinct found) {b c : Binding}
    (one : b ∈ found.filterMap Attribute.binding?) (other : c ∈ found.filterMap Attribute.binding?)
    {label : Option (List Char)} (covers : b.covers label = true)
    (covers' : c.covers label = true) : b = c := by
  obtain ⟨a, here, declares⟩ := List.mem_filterMap.mp one
  obtain ⟨a', there, declares'⟩ := List.mem_filterMap.mp other
  have name := name_of_binding declares
  have name' := name_of_binding declares'
  have same : b.label = c.label := by
    cases label with
    | some label =>
      simp only [Binding.covers, Bool.and_eq_true, decide_eq_true_eq] at covers covers'
      rw [covers.2, covers'.2]
    | none =>
      have listed := List.mem_map_of_mem (f := Attribute.name) here
      have listed' := List.mem_map_of_mem (f := Attribute.name) there
      rw [name] at listed
      rw [name'] at listed'
      rcases default_cases covers with none | empty <;>
        rcases default_cases covers' with none' | empty'
      · rw [none, none']
      · rw [none] at listed
        rw [empty'] at listed'
        exact absurd listed' (distinct.default listed)
      · rw [empty] at listed
        rw [none'] at listed'
        exact absurd listed (distinct.default listed')
      · rw [empty, empty']
  obtain rfl : a = a' := eq_of_name distinct.names here there (by rw [name, name', same])
  exact Option.some.inj (declares.symm.trans declares')

theorem agree_of_perm {first second : Tag}
    (perm : (attributes first.attributes).1.Perm (attributes second.attributes).1)
    (distinct : Distinct (attributes first.attributes).1) (outer : Scope) :
    Scope.Agree (first.declared.reverse ++ outer) (second.declared.reverse ++ outer) := by
  have same : first.declared.reverse.Perm second.declared.reverse :=
    (List.reverse_perm _).trans ((perm.filterMap _).trans (List.reverse_perm _).symm)
  intro label
  rw [List.find?_append, List.find?_append]
  congr 1
  refine find?_eq_of_perm same fun b one c other covers covers' => ?_
  exact distinct.eq_of_covers (List.mem_reverse.mp one) (List.mem_reverse.mp other) covers covers'

/-! ## Open elements -/

def Nest.Agree (first second : Nest) : Prop :=
  List.Forall₂ (fun a b : String × Scope => a.1 = b.1 ∧ a.2.Agree b.2) first second

theorem Scope.Agree.refl (scope : Scope) : scope.Agree scope := fun _ => rfl

theorem Nest.Agree.refl (nest : Nest) : nest.Agree nest :=
  List.forall₂_same.mpr fun _ _ => ⟨rfl, .refl _⟩

theorem Nest.Agree.scope {first second : Nest} (agree : first.Agree second) :
    first.scope.Agree second.scope := by
  cases agree with
  | nil => exact .refl _
  | cons innermost _ => exact innermost.2

theorem Scope.Agree.start {first second : Scope} (agree : first.Agree second) (tag : Tag) :
    first.start tag = second.start tag := by
  rw [Scope.start, Scope.start, agree.resolve]

theorem eventsFrom_agree {first second : Nest} (agree : first.Agree second) (seen : List Event)
    (fault : Option MarkupFault) (tokens : List Token) :
    eventsFrom first seen fault tokens = eventsFrom second seen fault tokens := by
  induction tokens generalizing first second seen with
  | nil => rfl
  | cons token tokens ih =>
    have inner (tag : Tag) := agree.scope.append tag.declared.reverse
    rw [eventsFrom, eventsFrom]
    cases token with
    | text content => exact ih agree _
    | opening tag =>
      rw [step_opening, step_opening]
      rcases enter_cases tag with ⟨fault, refused, -⟩ | ⟨accepted, -⟩
      · rw [refused, refused]
        rfl
      · rw [accepted, accepted]
        simp only [Except.map, (inner tag).start]
        have opened : Nest.Agree ((tag.name, tag.declared.reverse ++ first.scope) :: first)
            ((tag.name, tag.declared.reverse ++ second.scope) :: second) :=
          .cons ⟨rfl, inner tag⟩ agree
        exact ih opened _
    | empty tag =>
      rw [step_empty, step_empty]
      rcases enter_cases tag with ⟨fault, refused, -⟩ | ⟨accepted, -⟩
      · rw [refused, refused]
        rfl
      · rw [accepted, accepted]
        simp only [Except.map, (inner tag).start]
        exact ih agree _
    | closing name =>
      cases agree with
      | nil => rfl
      | @cons one other outer outer' innermost agree =>
        obtain ⟨opened, scope⟩ := one
        obtain ⟨opened', scope'⟩ := other
        obtain rfl : opened = opened' := innermost.1
        by_cases same : opened = name
        · simp only [Nest.step, if_pos same]
          exact ih agree _
        · simp only [Nest.step, if_neg same]

theorem remaining_agree {first second : Nest} (agree : first.Agree second) (place : Place)
    (rest : List Char) :
    Cursor.remaining ⟨place, first⟩ rest = Cursor.remaining ⟨place, second⟩ rest :=
  eventsFrom_agree agree [] _ _

/-! ## Tags as they stand in a text -/

/-- What stands between the angle brackets of a tag that begins an element. -/
structure BeginsElement (inside : List Char) : Prop where
  whole : IsTagPart inside none
  start : inside.head? ≠ some '/'

instance (inside : List Char) : Decidable (BeginsElement inside) :=
  decidable_of_iff (inside ≠ [] ∧ (inside.head? ≠ some '?' ∧ inside.head? ≠ some '!') ∧
    inside.foldlM quoteWithin none = some none ∧ inside.head? ≠ some '/')
    ⟨fun ⟨filled, begins, quotes, start⟩ => ⟨⟨filled, begins, quotes⟩, start⟩,
      fun ⟨⟨filled, begins, quotes⟩, start⟩ => ⟨filled, begins, quotes, start⟩⟩

/-- The element ends where it begins. -/
def IsEmptyTag (inside : List Char) : Prop := inside.getLast? = some '/'

instance (inside : List Char) : Decidable (IsEmptyTag inside) :=
  inferInstanceAs (Decidable (inside.getLast? = some '/'))

def startTag (inside : List Char) : Tag :=
  if IsEmptyTag inside then Tag.ofInside inside.dropLast else Tag.ofInside inside

theorem BeginsElement.ofInside {inside : List Char} (begins : BeginsElement inside) :
    Token.ofInside inside =
      if IsEmptyTag inside then .empty (startTag inside) else .opening (startTag inside) := by
  unfold Token.ofInside
  split
  · exact absurd rfl begins.start
  · by_cases empty : inside.getLast? = some '/' <;> simp [startTag, IsEmptyTag, empty]

def Nest.behind (nest : Nest) (inside : List Char) (scope : Scope) : Nest :=
  if IsEmptyTag inside then nest else ((startTag inside).name, scope) :: nest

theorem Nest.Agree.behind {nest : Nest} {first second : List Char} {scope scope' : Scope}
    (ends : IsEmptyTag first ↔ IsEmptyTag second)
    (name : (startTag first).name = (startTag second).name) (agree : scope.Agree scope') :
    Nest.Agree (nest.behind first scope) (nest.behind second scope') := by
  by_cases empty : IsEmptyTag second
  · simp only [Nest.behind, if_pos empty, if_pos (ends.mpr empty)]
    exact Nest.Agree.refl nest
  · simp only [Nest.behind, if_neg empty, if_neg (mt ends.mp empty)]
    exact .cons ⟨name, agree⟩ (Nest.Agree.refl nest)

def tagEnd (inside : List Char) : List Event := if IsEmptyTag inside then [.stop] else []

theorem BeginsElement.step {inside : List Char} (begins : BeginsElement inside) (nest : Nest) :
    nest.step (Token.ofInside inside) = (nest.scope.enter (startTag inside)).map fun scope =>
      (nest.behind inside scope, scope.start (startTag inside) :: tagEnd inside) := by
  rw [begins.ofInside]
  by_cases empty : IsEmptyTag inside
  · simp only [if_pos empty, step_empty, Nest.behind, tagEnd]
  · simp only [if_neg empty, step_opening, Nest.behind, tagEnd]

theorem BeginsElement.remaining {inside : List Char} (begins : BeginsElement inside) (nest : Nest)
    (rest : List Char) : Cursor.remaining ⟨.markup, nest⟩ (inside ++ '>' :: rest) =
      match nest.scope.enter (startTag inside) with
      | .error fault => ([], some fault)
      | .ok scope =>
        let behind := Cursor.remaining ⟨.content [], nest.behind inside scope⟩ rest
        (scope.start (startTag inside) :: tagEnd inside ++ behind.1, behind.2) := by
  have scanned : Cursor.remaining ⟨.markup, nest⟩ (inside ++ '>' :: rest) =
      Cursor.remaining ⟨.tag inside.reverse none, nest⟩ ('>' :: rest) := by
    simp only [Cursor.remaining]
    rw [scanFrom_inside [] begins.whole]
  have place : Place.step (.tag inside.reverse none) '>' =
      .ok (.content [], some (Token.ofInside inside)) := by
    simp [Place.step]
  have stepped := begins.step nest
  rw [scanned]
  cases entered : nest.scope.enter (startTag inside) with
  | error fault =>
    rw [entered] at stepped
    simp only [Cursor.remaining, scanFrom, place]
    rw [scanFrom_seen]
    simp only [Option.toList_some, List.append_nil, List.reverse_singleton, List.singleton_append,
      eventsFrom, stepped, Except.map, List.reverse_nil]
  | ok scope =>
    rw [entered] at stepped
    refine remaining_of_step ?_ rest
    simp only [Cursor.step, place, stepped, Except.map]

/-- Tags of one name with the same attributes, maybe in another order. -/
structure Reordered (first second : List Char) : Prop where
  ends : IsEmptyTag first ↔ IsEmptyTag second
  name : (startTag first).name = (startTag second).name
  perm : (attributes (startTag first).attributes).1.Perm (attributes (startTag second).attributes).1
  fault : (attributes (startTag first).attributes).2 = (attributes (startTag second).attributes).2

end Bindery.Xml
