import Bindery.Proofs.Json.Canonical
import Bindery.Proofs.Json.Integer

/-! Values whose numbers are all 64-bit integers. They are read again as they are. -/
namespace Bindery.Json

mutual

def Value.IsWhole : Value → Prop
  | .number n => n.IsWord
  | .array items => AreWhole items
  | .object members => Members.AreWhole members
  | .null => True
  | .bool _ => True
  | .string _ => True

def AreWhole : List Value → Prop
  | [] => True
  | v :: rest => v.IsWhole ∧ AreWhole rest

def Members.AreWhole : List (String × Value) → Prop
  | [] => True
  | (_, v) :: rest => v.IsWhole ∧ Members.AreWhole rest

end

theorem areWhole_iff (items : List Value) : AreWhole items ↔ ∀ v ∈ items, v.IsWhole := by
  induction items with
  | nil => simp [AreWhole]
  | cons v rest ih => simp [AreWhole, ih]

theorem Members.areWhole_iff (members : Members) :
    AreWhole members ↔ ∀ member ∈ members, member.2.IsWhole := by
  induction members with
  | nil => simp [AreWhole]
  | cons first rest ih => simp [AreWhole, ih]

theorem Members.areWhole_append_iff (before behind : Members) :
    AreWhole (before ++ behind) ↔ AreWhole before ∧ AreWhole behind := by
  simp only [Members.areWhole_iff, List.forall_mem_append]

mutual

theorem isWhole_canonical : (v : Value) → v.IsWhole → v.canonical.IsWhole
  | .number _, whole => whole
  | .array items, whole => areWhole_canonicalItems items whole
  | .object members, whole => by
    have all := (Members.areWhole_iff _).mp (areWhole_canonicalMembers members whole)
    exact (Members.areWhole_iff _).mpr fun member listed =>
      all member (Members.mem_of_mem_sort listed)
  | .null, _ => trivial
  | .bool _, _ => trivial
  | .string _, _ => trivial

theorem areWhole_canonicalItems : (items : List Value) → AreWhole items →
    AreWhole (canonicalItems items)
  | [], _ => trivial
  | v :: rest, ⟨first, others⟩ => ⟨isWhole_canonical v first, areWhole_canonicalItems rest others⟩

theorem areWhole_canonicalMembers : (members : List (String × Value)) →
    Members.AreWhole members → Members.AreWhole (canonicalMembers members)
  | [], _ => trivial
  | (_, v) :: rest, ⟨first, others⟩ =>
    ⟨isWhole_canonical v first, areWhole_canonicalMembers rest others⟩

end

theorem Number.read?_render {n : Number} (word : n.IsWord) : read? n.render.toList = some n := by
  cases n with
  | integer n => exact read?_eq_integer_iff.mpr ⟨rfl, word⟩
  | float x => cases word

mutual

theorem reread?_of_isWhole : (v : Value) → v.IsWhole → v.reread? = some v
  | .number n, whole => by rw [Value.reread?, Number.read?_render whole, Option.map_some]
  | .array items, whole => by rw [Value.reread?, rereadItems?_of_areWhole items whole,
      Option.map_some]
  | .object members, whole => by rw [Value.reread?, rereadMembers?_of_areWhole members whole,
      Option.map_some]
  | .null, _ => rfl
  | .bool _, _ => rfl
  | .string _, _ => rfl

theorem rereadItems?_of_areWhole : (items : List Value) → AreWhole items →
    rereadItems? items = some items
  | [], _ => rfl
  | v :: rest, ⟨first, others⟩ => by
    rw [rereadItems?, reread?_of_isWhole v first, Option.bind_some,
      rereadItems?_of_areWhole rest others, Option.map_some]

theorem rereadMembers?_of_areWhole : (members : List (String × Value)) →
    Members.AreWhole members → rereadMembers? members = some members
  | [], _ => rfl
  | (_, v) :: rest, ⟨first, others⟩ => by
    rw [rereadMembers?, reread?_of_isWhole v first, Option.bind_some,
      rereadMembers?_of_areWhole rest others, Option.map_some]

end

end Bindery.Json
