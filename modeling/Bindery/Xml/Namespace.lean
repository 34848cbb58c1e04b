import Bindery.Xml.Attribute
import Bindery.Xml.Token

/-! Namespaces: the bindings that a tag declares, and the space and local name of an element. -/
namespace Bindery.Xml

/-- A prefix and the name bound to it. The default binding has no prefix or an empty one, and an
empty name takes a binding back. -/
structure Binding where
  label : Option (List Char)
  space : List Char
deriving DecidableEq, Repr

abbrev Scope := List Binding

def reservedSpace (part : String) : String := "http://www.w3.org/" ++ part

def xmlSpace : String := reservedSpace "XML/1998/namespace"

def xmlnsSpace : String := reservedSpace "2000/xmlns/"

def Attribute.binding? (a : Attribute) : Option Binding :=
  if a.name = "xmlns".toList then some ⟨none, a.raw⟩
  else if "xmlns:".toList.isPrefixOf a.name then some ⟨some (a.name.drop 6), a.raw⟩
  else none

def Binding.allowed (b : Binding) : Bool :=
  match b.label with
  | none => true
  | some label =>
    if label = "xml".toList then b.space = xmlSpace.toList
    else label ≠ "xmlns".toList && b.space ≠ xmlSpace.toList && b.space ≠ xmlnsSpace.toList

/-- The scope inside a tag. Declarations behind a malformed attribute are not seen. -/
def Scope.enter (scope : Scope) (tag : Tag) : Except MarkupFault Scope :=
  let declared := (attributes tag.attributes).1.filterMap Attribute.binding?
  match declared.find? (! ·.allowed) with
  | some b => .error (.reservedPrefix (spell (b.label.getD [])))
  | none => .ok (declared.reverse ++ scope)

def splitName (name : List Char) : Option (List Char) × List Char :=
  match cut? [':'] name with
  | some (label, rest) => (some label, rest)
  | none => (none, name)

/-- Whether a binding is the one for names with the given prefix, or without one. No binding is for
names that begin with the colon. -/
def Binding.covers (b : Binding) : Option (List Char) → Bool
  | none => (b.label.getD []).isEmpty
  | some label => ! label.isEmpty && b.label = some label

/-- The space of an element and its local name; an unbound prefix has no space. -/
def Scope.resolve (scope : Scope) (name : String) : Option String × String :=
  let (label, rest) := splitName name.toList
  let space :=
    if label = some "xml".toList then some xmlSpace
    else
      match scope.find? (·.covers label) with
      | some b => if b.space.isEmpty then none else some (spell b.space)
      | none => none
  (space, spell rest)

end Bindery.Xml
