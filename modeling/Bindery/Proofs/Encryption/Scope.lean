import Bindery.Encryption.Stream
import Bindery.Proofs.Xml.Event

/-! The scope that the root of a written manifest opens, and what its four prefixes stand for. -/
namespace Bindery.Encryption

open Xml

def rootScope : Scope :=
  [⟨some "comp".toList, compressionSpace.toList⟩, ⟨some "ds".toList, signatureSpace.toList⟩,
    ⟨some "enc".toList, encryptionSpace.toList⟩, ⟨none, containerSpace.toList⟩]

theorem rootScope_space_ne :
    ∀ b ∈ rootScope, b.space ≠ xmlSpace.toList ∧ b.space ≠ xmlnsSpace.toList := by
  have xml : xmlSpace.toList = "http://www.w3.org/".toList ++ "XML/1998/namespace".toList :=
    String.toList_append
  have xmlns : xmlnsSpace.toList = "http://www.w3.org/".toList ++ "2000/xmlns/".toList :=
    String.toList_append
  rw [xml, xmlns]
  decide

theorem allowed_of_ne {b : Binding} (notXml : b.label ≠ some "xml".toList)
    (notXmlns : b.label ≠ some "xmlns".toList)
    (spaces : b.space ≠ xmlSpace.toList ∧ b.space ≠ xmlnsSpace.toList) : b.allowed = true := by
  unfold Binding.allowed
  split
  · rfl
  · rename_i label written
    rw [written] at notXml notXmlns
    rw [if_neg fun same => notXml (congrArg some same)]
    simp only [spaces, Bool.and_eq_true, decide_eq_true_eq, ne_eq, not_false_eq_true, and_true]
    exact fun same => notXmlns (congrArg some same)

theorem rootScope_allowed : ∀ b ∈ rootScope, b.allowed = true := by
  intro b member
  have labels : ∀ b ∈ rootScope, b.label ≠ some "xml".toList ∧ b.label ≠ some "xmlns".toList := by
    decide
  obtain ⟨notXml, notXmlns⟩ := labels b member
  exact allowed_of_ne notXml notXmlns (rootScope_space_ne b member)

theorem escape_spaces :
    ∀ space ∈ [containerSpace, encryptionSpace, signatureSpace, compressionSpace],
    space.toList.flatMap escapeChar = space.toList := by
  decide

theorem plain_rootValues : Manifest.rootValues.Plain := by
  constructor
  · decide
  · decide

theorem enter_root : Scope.enter [] (tagOf "encryption" Manifest.rootValues) = .ok rootScope := by
  have default (raw : List Char) : Attribute.binding? ⟨"xmlns".toList, raw⟩ = some ⟨none, raw⟩ :=
    rfl
  have enc (raw : List Char) :
      Attribute.binding? ⟨"xmlns:enc".toList, raw⟩ = some ⟨some "enc".toList, raw⟩ := rfl
  have ds (raw : List Char) :
      Attribute.binding? ⟨"xmlns:ds".toList, raw⟩ = some ⟨some "ds".toList, raw⟩ := rfl
  have comp (raw : List Char) :
      Attribute.binding? ⟨"xmlns:comp".toList, raw⟩ = some ⟨some "comp".toList, raw⟩ := rfl
  have declared : (Manifest.rootValues.present.map Attribute.ofValue).filterMap
      Attribute.binding? = rootScope.reverse := by
    simp only [Manifest.rootValues, Values.present, List.filterMap_cons, List.filterMap_nil,
      Option.map_some, List.map_cons, List.map_nil, Attribute.ofValue,
      escape_spaces containerSpace (by simp), escape_spaces encryptionSpace (by simp),
      escape_spaces signatureSpace (by simp), escape_spaces compressionSpace (by simp),
      default, enc, ds, comp]
    rfl
  have allowed : ∀ b ∈ rootScope.reverse, b.allowed = true := fun b member =>
    rootScope_allowed b (List.mem_reverse.mp member)
  exact enter_declaring [] "encryption" plain_rootValues declared allowed

theorem resolve_root : rootScope.resolve "encryption" = (some containerSpace, "encryption") := by
  decide

theorem resolve_prefixed (label space name : String) (absent : ':' ∉ label.toList)
    (other : label ≠ "xml") (named : space ≠ "")
    (found : rootScope.find? (·.covers (some label.toList)) =
      some ⟨some label.toList, space.toList⟩) :
    rootScope.resolve (label ++ ":" ++ name) = (some space, name) := by
  have letters : (label ++ ":" ++ name).toList = label.toList ++ ':' :: name.toList := by simp
  have parts : splitName (label ++ ":" ++ name).toList = (some label.toList, name.toList) := by
    rw [letters, splitName_some name.toList absent]
  have apart : some label.toList ≠ some "xml".toList := fun same =>
    other (String.toList_inj.mp (Option.some.inj same))
  have solid : space.toList.isEmpty = false := by simpa using named
  simp only [Scope.resolve, parts, found, solid, if_neg apart]
  simp [spell]

theorem resolve_enc (name : String) :
    rootScope.resolve ("enc:" ++ name) = (some encryptionSpace, name) :=
  resolve_prefixed "enc" encryptionSpace name (by decide) (by decide) (by decide) (by decide)

theorem resolve_ds (name : String) :
    rootScope.resolve ("ds:" ++ name) = (some signatureSpace, name) :=
  resolve_prefixed "ds" signatureSpace name (by decide) (by decide) (by decide) (by decide)

theorem resolve_comp (name : String) :
    rootScope.resolve ("comp:" ++ name) = (some compressionSpace, name) :=
  resolve_prefixed "comp" compressionSpace name (by decide) (by decide) (by decide) (by decide)

end Bindery.Encryption
