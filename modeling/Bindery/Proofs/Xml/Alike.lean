import Bindery.Proofs.Action
import Bindery.Proofs.Xml.Attribute
import Bindery.Proofs.Xml.RenamedText
import Mathlib.Data.List.Forall2

/-! Events that a reader cannot tell apart when it asks for attributes without a prefix. Such are the
events of a document and of the same document with its prefixes under other names. -/
namespace Bindery.Xml

def Ordinary (name : String) : Prop := ':' ∉ name.toList ∧ name ≠ "xmlns"

instance (name : String) : Decidable (Ordinary name) := inferInstanceAs (Decidable (_ ∧ _))

/-- Tags with the same values of all attributes that have no prefix. -/
structure Tag.Alike (first second : Tag) : Prop where
  value : ∀ name, Ordinary name →
    (value? first.attributes name).toOption = (value? second.attributes name).toOption
  lookup : ∀ name, Ordinary name →
    (values first.attributes).toOption.map (List.lookup name) =
      (values second.attributes).toOption.map (List.lookup name)

inductive Event.Alike : Event → Event → Prop where
  | start {space : Option String} {label : String} {first second : Tag} : first.Alike second →
      Alike (.start space label first) (.start space label second)
  | stop : Alike .stop .stop
  | text (content : List Char) : Alike (.text content) (.text content)

theorem Event.Alike.of_resolve {scope other : Scope} {first second : Tag}
    (alike : first.Alike second) (resolved : other.resolve second.name = scope.resolve first.name) :
    (scope.start first).Alike (other.start second) := by
  have start (scope : Scope) (tag : Tag) : scope.start tag =
      .start (scope.resolve tag.name).1 (scope.resolve tag.name).2 tag := rfl
  rw [start, start, resolved]
  exact .start alike

/-- Tags are alike when they are written with the same values, declarations and prefixed attributes
apart. -/
theorem alike_of_items {first second : Tag} {items others : List (String × String)}
    (one : attributes first.attributes = (items.map Attribute.ofValue, none))
    (other : attributes second.attributes = (others.map Attribute.ofValue, none))
    (distinct : (items.map Prod.fst).Nodup) (distinct' : (others.map Prod.fst).Nodup)
    (same : ∀ name, Ordinary name → items.lookup name = others.lookup name) :
    first.Alike second where
  value := by
    intro name ordinary
    simp only [value?, one, other]
    rw [valueFrom_ofValue name items [] distinct (by simp),
      valueFrom_ofValue name others [] distinct' (by simp), same name ordinary]
  lookup := by
    intro name ordinary
    simp only [values, one, other]
    rw [valuesFrom_ofValue items [] distinct (by simp),
      valuesFrom_ofValue others [] distinct' (by simp)]
    exact congrArg some (same name ordinary)

namespace Renaming

variable {ρ : Renaming}

theorem contains_key (ρ : Renaming) (names : List (List Char)) (name : List Char) :
    (names.map ρ.key).contains (ρ.key name) = names.contains name := by
  rw [Bool.eq_iff_iff, List.contains_iff_mem, List.contains_iff_mem]
  exact List.mem_map_of_injective fun _ _ => key_injective

theorem valueFrom_keyed (ρ : Renaming) {name : List Char} (plain : ':' ∉ name)
    (names : List (List Char)) (fault : Option AttributeFault) (found : List Attribute) :
    (valueFrom? name (names.map ρ.key) fault (found.map ρ.keyed)).toOption =
      (valueFrom? name names fault found).toOption := by
  induction found generalizing names with
  | nil => rfl
  | cons a found ih =>
    have rest := ih (a.name :: names)
    simp only [List.map_cons, valueFrom?, keyed, contains_key, key_eq_iff plain]
    split
    · rfl
    · split
      · rfl
      · exact rest

theorem lookup_cons_spell (name : String) (first : List Char) (value : String)
    (rest : List (String × String)) : List.lookup name ((spell first, value) :: rest) =
      if first = name.toList then some value else rest.lookup name := by
  have same : (name == spell first) = decide (first = name.toList) := by
    rw [Bool.eq_iff_iff, beq_iff_eq, decide_eq_true_iff, ← String.toList_inj, spell,
      String.toList_ofList, eq_comm]
  rw [List.lookup_cons, same]
  by_cases hit : first = name.toList <;> simp [hit]

theorem lookup_behind (name : String) (given : List Char) (first : Result String)
    (rest : Result (List (String × String))) :
    (first >>= fun value => rest >>= fun values =>
        .ok ((spell given, value) :: values)).toOption.map (List.lookup name) =
      first.toOption.bind fun value => (rest.toOption.map (List.lookup name)).map fun found =>
        if given = name.toList then some value else found := by
  cases first with
  | error e => rfl
  | ok value =>
    cases rest with
    | error e => rfl
    | ok values => exact congrArg some (lookup_cons_spell name given value values)

theorem valuesFrom_keyed (ρ : Renaming) {name : String} (plain : ':' ∉ name.toList)
    (names : List (List Char)) (fault : Option AttributeFault) (found : List Attribute) :
    (valuesFrom (names.map ρ.key) fault (found.map ρ.keyed)).toOption.map (List.lookup name) =
      (valuesFrom names fault found).toOption.map (List.lookup name) := by
  induction found generalizing names with
  | nil => rfl
  | cons a found ih =>
    have rest := ih (a.name :: names)
    have value : Attribute.value ⟨ρ.key a.name, a.raw⟩ = a.value := rfl
    simp only [List.map_cons, valuesFrom, keyed, contains_key]
    split
    · rfl
    · rw [lookup_behind, lookup_behind, value]
      simp only [key_eq_iff plain]
      exact congrArg _ (funext fun value => congrArg _ rest)

theorem alike_tag (ρ : Renaming) (t : Tag) : t.Alike (ρ.tag t) where
  value := by
    intro name ordinary
    simp only [value?, attributes_tag]
    exact (valueFrom_keyed ρ ordinary.1 [] _ _).symm
  lookup := by
    intro name ordinary
    simp only [values, attributes_tag]
    exact (valuesFrom_keyed ρ ordinary.1 [] _ _).symm

theorem alike_event (ρ : Renaming) (event : Event) : event.Alike (ρ.event event) := by
  cases event with
  | start space label tag => exact .start (alike_tag ρ tag)
  | stop => exact .stop
  | text content => exact .text content

theorem alike_text (ρ : Renaming) (given : String) :
    List.Forall₂ Event.Alike (events given).1 (events (ρ.text given)).1 := by
  rw [(events_text ρ given).1, List.forall₂_map_right_iff]
  exact List.forall₂_same.mpr fun event _ => alike_event ρ event

end Renaming
end Bindery.Xml
