import Bindery.Proofs.ReadingOrder.Identity
import Bindery.Proofs.ReadingOrder.Meaning

/-! Links that lose their protection and get it back. Both changes make the properties of a link
anew out of its other properties, and an object of properties stands only where there is something
in it. So the protection is all that is lost, and a link that had one is whole once that is put
back. -/
namespace Bindery

open Json (Members)
open ReadingOrder (propertiesOf)

namespace Link

def others (link : Link) : Members := (link.properties.map (·.extra)).getD []

def withProperties (link : Link) (protection : Option Protection) (others : Members) : Link :=
  { link with properties := propertiesOf protection others }

variable (link : Link)

@[simp] theorem protection?_withProperties (protection : Option Protection) (others : Members) :
    (link.withProperties protection others).protection? = protection := by
  cases protection with
  | some p => rfl
  | none =>
    cases others with
    | nil => rfl
    | cons member others => rfl

@[simp] theorem others_withProperties (protection : Option Protection) (others : Members) :
    (link.withProperties protection others).others = others := by
  cases protection with
  | some p => rfl
  | none =>
    cases others with
    | nil => rfl
    | cons member others => rfl

theorem carriedOver_eq (type : String) :
    link.carriedOver type = { link.withProperties none link.others with type } := by
  obtain ⟨href, before, properties, extra⟩ := link
  cases properties with
  | none => rfl
  | some properties =>
    obtain ⟨protection, others⟩ := properties
    cases others with
    | nil => rfl
    | cons member others => rfl

theorem protect_eq (p : Protection) :
    link.protect p = link.withProperties (some p) link.others := by
  obtain ⟨href, type, properties, extra⟩ := link
  cases properties with
  | none => rfl
  | some properties => rfl

/-- A link is what its parts make, unless its properties are there and hold nothing. -/
theorem withProperties_self (solid : link.properties ≠ some {}) :
    link.withProperties link.protection? link.others = link := by
  obtain ⟨href, type, properties, extra⟩ := link
  cases properties with
  | none => rfl
  | some properties =>
    obtain ⟨protection, others⟩ := properties
    cases protection with
    | some p => rfl
    | none =>
      cases others with
      | nil => exact absurd rfl solid
      | cons member others => rfl

@[simp] theorem protection?_carriedOver (type : String) :
    (link.carriedOver type).protection? = none := by
  rw [carriedOver_eq]
  exact link.protection?_withProperties none link.others

@[simp] theorem others_carriedOver (type : String) :
    (link.carriedOver type).others = link.others := by
  rw [carriedOver_eq]
  exact link.others_withProperties none link.others

theorem protect_carriedOver {p : Protection} (found : link.protection? = some p) :
    (link.carriedOver link.type).protect p = link := by
  have solid : link.properties ≠ some {} := by
    intro empty
    rw [protection?, empty] at found
    cases found
  have whole := link.withProperties_self solid
  rw [found] at whole
  rw [protect_eq, others_carriedOver]
  exact whole

theorem withoutEmpty_of_solid (solid : link.properties ≠ some {}) : link.withoutEmpty = link := by
  unfold withoutEmpty
  split
  · rename_i empty
    exact absurd empty solid
  · rfl

theorem withoutEmpty_of_empty (empty : link.properties = some {}) :
    link.withoutEmpty = { link with properties := none } := by
  rw [withoutEmpty, empty]

theorem carriedOver_carriedOver (first type : String) :
    (link.carriedOver first).carriedOver type = link.carriedOver type := by
  calc (link.carriedOver first).carriedOver type
      = { (link.carriedOver first).withProperties none (link.carriedOver first).others with
          type } := carriedOver_eq _ type
    _ = { link.withProperties none link.others with type } := by
      rw [others_carriedOver]
      rfl
    _ = link.carriedOver type := (link.carriedOver_eq type).symm

/-- A link that is carried over keeps all but its protection, its type and properties that hold
nothing. With the protection that it had it is the link that it was. -/
theorem carriedOver_lossless (type : String) :
    ((link.carriedOver type).isProtected = false ∧ (link.carriedOver type).href = link.href ∧
      (link.carriedOver type).type = type ∧ (link.carriedOver type).extra = link.extra ∧
      (link.carriedOver type).others = link.others) ∧
    (∀ p, link.protection? = some p → (link.carriedOver link.type).protect p = link) ∧
    (link.protection? = none →
      (link.properties ≠ some {} → link.carriedOver link.type = link) ∧
      (link.properties = some {} →
        link.carriedOver link.type = { link with properties := none })) ∧
    ∀ other, (link.carriedOver other).carriedOver type = link.carriedOver type := by
  refine ⟨⟨?_, rfl, rfl, rfl, link.others_carriedOver type⟩, ?_, ?_, ?_⟩
  · rw [isProtected, protection?_carriedOver]
    rfl
  · intro p found
    exact link.protect_carriedOver found
  · intro plain
    have unprotected : link.isProtected = false := by
      rw [isProtected, plain]
      rfl
    rw [carriedOver_self unprotected]
    exact ⟨link.withoutEmpty_of_solid, link.withoutEmpty_of_empty⟩
  · intro other
    exact link.carriedOver_carriedOver other type

def fixedLink : Link where
  href := "a.html"
  type := "application/xml"
  properties := some {
    protection := some { scheme := "other", profile := "old", algorithm := "none" }
    extra := [("layout", .string "fixed")] }
  extra := [("title", .string "A")]

theorem carriedOver_lossless_fixedLink :
    fixedLink.protection? = some { scheme := "other", profile := "old", algorithm := "none" } ∧
      fixedLink.carriedOver fixedLink.type = { fixedLink with
        properties := some { extra := [("layout", .string "fixed")] } } ∧
      (fixedLink.carriedOver fixedLink.type).protect
        { scheme := "other", profile := "old", algorithm := "none" } = fixedLink := by
  obtain ⟨_, restored, _⟩ := carriedOver_lossless fixedLink "text/html"
  exact ⟨rfl, rfl, restored _ rfl⟩

end Link
end Bindery
