import Bindery.Proofs.Xml.Tag
import Bindery.Xml.Event

/-! Prefixes under other names. A renaming takes no two prefixes to one and leaves the reserved
prefixes as they are. If it is applied to the declarations of a document and to all names in it,
the elements keep their spaces and local names, and nothing else changes. -/
namespace Bindery.Xml

def IsPrefix (label : List Char) : Prop :=
  IsName label ∧ ':' ∉ label ∧ label ≠ "xml".toList ∧ label ≠ "xmlns".toList

instance (label : List Char) : Decidable (IsPrefix label) :=
  inferInstanceAs (Decidable (_ ∧ _))

structure Renaming where
  rename : List Char → List Char
  legal : ∀ label, IsPrefix label → IsPrefix (rename label)
  injective : ∀ first second, IsPrefix first → IsPrefix second → rename first = rename second →
    first = second

namespace Renaming

variable (ρ : Renaming)

/-! ## Names -/

/-- A prefix under its new name; what is no prefix, or a reserved one, stays as it is. -/
def label (given : List Char) : List Char := if IsPrefix given then ρ.rename given else given

def name (given : List Char) : List Char :=
  match splitName given with
  | (some p, rest) => ρ.label p ++ ':' :: rest
  | (none, rest) => rest

def key (given : List Char) : List Char :=
  if "xmlns:".toList.isPrefixOf given then "xmlns:".toList ++ ρ.label (given.drop 6)
  else ρ.name given

variable {ρ} {first second given rest : List Char}

theorem label_of_isPrefix (legal : IsPrefix given) : ρ.label given = ρ.rename given := if_pos legal

theorem label_of_not (other : ¬ IsPrefix given) : ρ.label given = given := if_neg other

theorem isPrefix_label (legal : IsPrefix given) : IsPrefix (ρ.label given) := by
  rw [label_of_isPrefix legal]
  exact ρ.legal given legal

theorem label_injective (same : ρ.label first = ρ.label second) : first = second := by
  by_cases one : IsPrefix first
  · by_cases other : IsPrefix second
    · rw [label_of_isPrefix one, label_of_isPrefix other] at same
      exact ρ.injective first second one other same
    · rw [label_of_not other] at same
      exact absurd (same ▸ isPrefix_label one) other
  · by_cases other : IsPrefix second
    · rw [label_of_not one] at same
      exact absurd (same ▸ isPrefix_label other) one
    · rwa [label_of_not one, label_of_not other] at same

/-- What is no prefix is the new name of nothing but itself. -/
theorem label_eq_iff (other : ¬ IsPrefix second) : ρ.label first = second ↔ first = second := by
  constructor
  · intro same
    rw [← label_of_not (ρ := ρ) other] at same
    exact label_injective same
  · rintro rfl
    exact label_of_not other

theorem colon_not_mem_label (absent : ':' ∉ given) : ':' ∉ ρ.label given := by
  by_cases legal : IsPrefix given
  · exact (isPrefix_label legal).2.1
  · rwa [label_of_not legal]

theorem name_prefixed (rest : List Char) (absent : ':' ∉ given) :
    ρ.name (given ++ ':' :: rest) = ρ.label given ++ ':' :: rest := by
  simp only [name, splitName_some rest absent]

theorem name_of_not_mem (absent : ':' ∉ given) : ρ.name given = given := by
  simp only [name, splitName_none absent]

theorem splitName_name (given : List Char) :
    splitName (ρ.name given) = ((splitName given).1.map ρ.label, (splitName given).2) := by
  rcases name_cases given with ⟨p, rest, rfl, absent⟩ | absent
  · rw [name_prefixed rest absent, splitName_some rest absent,
      splitName_some rest (colon_not_mem_label absent)]
    rfl
  · rw [name_of_not_mem absent, splitName_none absent]
    rfl

theorem name_injective (same : ρ.name first = ρ.name second) : first = second := by
  have parts := congrArg splitName same
  rw [splitName_name, splitName_name] at parts
  obtain ⟨labels, rests⟩ := Prod.mk.inj parts
  rcases name_cases first with ⟨p, rest, rfl, absent⟩ | absent
  · rcases name_cases second with ⟨q, rest', rfl, absent'⟩ | absent'
    · rw [splitName_some _ absent, splitName_some _ absent'] at labels rests
      obtain rfl : rest = rest' := rests
      rw [label_injective (Option.some.inj labels)]
    · rw [splitName_some _ absent, splitName_none absent'] at labels
      cases labels
  · rcases name_cases second with ⟨q, rest', rfl, absent'⟩ | absent'
    · rw [splitName_none absent, splitName_some _ absent'] at labels
      cases labels
    · rwa [splitName_none absent, splitName_none absent'] at rests

theorem name_xmlns (rest : List Char) :
    ρ.name ("xmlns:".toList ++ rest) = "xmlns:".toList ++ rest := by
  have absent : ':' ∉ "xmlns".toList := by decide
  have fixed : ρ.label "xmlns".toList = "xmlns".toList := label_of_not (by decide)
  have named := name_prefixed (ρ := ρ) rest absent
  rw [fixed] at named
  exact named

theorem key_declaring (p : List Char) :
    ρ.key ("xmlns:".toList ++ p) = "xmlns:".toList ++ ρ.label p := by
  have declares : "xmlns:".toList.isPrefixOf ("xmlns:".toList ++ p) = true :=
    List.isPrefixOf_iff_prefix.mpr (List.prefix_append _ _)
  rw [key, if_pos declares]
  rfl

theorem key_of_not (other : ¬ "xmlns:".toList <+: given) : ρ.key given = ρ.name given := by
  rw [key, if_neg fun declares => other (List.isPrefixOf_iff_prefix.mp declares)]

theorem not_declaring_name (other : ¬ "xmlns:".toList <+: given) :
    ¬ "xmlns:".toList <+: ρ.name given := by
  rintro ⟨rest, same⟩
  rw [← name_xmlns (ρ := ρ)] at same
  exact other ⟨rest, name_injective same⟩

theorem key_injective (same : ρ.key first = ρ.key second) : first = second := by
  by_cases one : "xmlns:".toList <+: first
  · obtain ⟨p, rfl⟩ := one
    by_cases other : "xmlns:".toList <+: second
    · obtain ⟨q, rfl⟩ := other
      rw [key_declaring, key_declaring] at same
      rw [label_injective (List.append_cancel_left same)]
    · rw [key_declaring, key_of_not other] at same
      exact absurd ⟨_, same⟩ (not_declaring_name other)
  · by_cases other : "xmlns:".toList <+: second
    · obtain ⟨q, rfl⟩ := other
      rw [key_declaring, key_of_not one] at same
      exact absurd ⟨_, same.symm⟩ (not_declaring_name one)
    · rw [key_of_not one, key_of_not other] at same
      exact name_injective same

theorem key_of_not_mem (absent : ':' ∉ given) : ρ.key given = given := by
  have other : ¬ "xmlns:".toList <+: given := by
    rintro ⟨rest, rfl⟩
    exact absent (by simp)
  rw [key_of_not other, name_of_not_mem absent]

/-- Attributes without a prefix are found where they were. -/
theorem key_eq_iff (absent : ':' ∉ second) : ρ.key first = second ↔ first = second := by
  constructor
  · intro same
    rw [← key_of_not_mem (ρ := ρ) absent] at same
    exact key_injective same
  · rintro rfl
    exact key_of_not_mem absent

/-! ## Scopes -/

variable (ρ)

def keyed (a : Attribute) : Attribute := ⟨ρ.key a.name, a.raw⟩

def binding (b : Binding) : Binding := ⟨b.label.map ρ.label, b.space⟩

def scope (scope : Scope) : Scope := scope.map ρ.binding

def nameString (given : String) : String := spell (ρ.name given.toList)

def nest (nest : Nest) : Nest := nest.map fun (name, scope) => (ρ.nameString name, ρ.scope scope)

variable {ρ}

theorem binding?_keyed (a : Attribute) :
    (ρ.keyed a).binding? = a.binding?.map ρ.binding := by
  obtain ⟨given, raw⟩ := a
  by_cases declares : "xmlns:".toList <+: given
  · obtain ⟨p, rfl⟩ := declares
    have declared (label : List Char) :
        Attribute.binding? ⟨"xmlns:".toList ++ label, raw⟩ = some ⟨some label, raw⟩ := rfl
    rw [keyed, key_declaring, declared, declared]
    rfl
  · have form (other : List Char) (apart : ¬ "xmlns:".toList <+: other) :
        Attribute.binding? ⟨other, raw⟩ =
          if other = "xmlns".toList then some ⟨none, raw⟩ else none := by
      rw [Attribute.binding?, if_neg fun starts => apart (List.isPrefixOf_iff_prefix.mp starts)]
    have fixed : ':' ∉ "xmlns".toList := by decide
    rw [keyed, form _ declares, key_of_not declares, form _ (not_declaring_name declares),
      ← key_of_not declares]
    simp only [key_eq_iff fixed]
    split
    · rfl
    · rfl

theorem allowed_binding (b : Binding) : (ρ.binding b).allowed = b.allowed := by
  obtain ⟨declared, space⟩ := b
  cases declared with
  | none => rfl
  | some p =>
    have xml : ρ.label p = "xml".toList ↔ p = "xml".toList := label_eq_iff (by decide)
    have xmlns : ρ.label p = "xmlns".toList ↔ p = "xmlns".toList := label_eq_iff (by decide)
    have apart : decide (ρ.label p ≠ "xmlns".toList) = decide (p ≠ "xmlns".toList) :=
      decide_eq_decide.mpr (not_congr xmlns)
    simp only [binding, Option.map_some, Binding.allowed]
    by_cases reserved : p = "xml".toList
    · rw [if_pos reserved, if_pos (xml.mpr reserved)]
      rfl
    · rw [if_neg reserved, if_neg (mt xml.mp reserved), apart]
      rfl

theorem isEmpty_label (p : List Char) : (ρ.label p).isEmpty = p.isEmpty := by
  have none : ¬ IsPrefix [] := by decide
  rw [Bool.eq_iff_iff, List.isEmpty_iff, List.isEmpty_iff, label_eq_iff none]

theorem covers_binding (b : Binding) (prefix? : Option (List Char)) :
    (ρ.binding b).covers (prefix?.map ρ.label) = b.covers prefix? := by
  obtain ⟨declared, space⟩ := b
  cases prefix? with
  | none =>
    cases declared with
    | none => rfl
    | some p => exact isEmpty_label p
  | some q =>
    cases declared with
    | none => simp [binding, Binding.covers]
    | some p =>
      have same : ρ.label p = ρ.label q ↔ p = q := ⟨label_injective, congrArg _⟩
      simp [binding, Binding.covers, isEmpty_label, same]

theorem find?_scope (scope : Scope) (prefix? : Option (List Char)) :
    (ρ.scope scope).find? (·.covers (prefix?.map ρ.label)) =
      (scope.find? (·.covers prefix?)).map ρ.binding := by
  rw [Renaming.scope, List.find?_map]
  simp only [Function.comp_def, covers_binding]

theorem resolve_scope (scope : Scope) (given : String) :
    (ρ.scope scope).resolve (ρ.nameString given) = scope.resolve given := by
  have xml : ¬ IsPrefix "xml".toList := by decide
  have reserved (prefix? : Option (List Char)) :
      prefix?.map ρ.label = some "xml".toList ↔ prefix? = some "xml".toList := by
    cases prefix? with
    | none => simp
    | some p => simp only [Option.map_some, Option.some.injEq, label_eq_iff xml]
  rw [Scope.resolve, nameString, spell, String.toList_ofList, splitName_name, Scope.resolve]
  simp only [reserved, find?_scope]
  cases scope.find? (·.covers (splitName given.toList).1) with
  | none => rfl
  | some b => rfl

theorem nameString_injective {one other : String}
    (same : ρ.nameString one = ρ.nameString other) : one = other := by
  have letters := congrArg String.toList same
  simp only [nameString, spell, String.toList_ofList] at letters
  exact String.toList_inj.mp (name_injective letters)

end Renaming

end Bindery.Xml
