import Bindery.Json.Printer
import Bindery.Publication.Basic

/-! The JSON form of publications: known members first, in a fixed order, and those without a value
left out; then the others. -/
namespace Bindery

open Json (Members Value)

def optionalMember (name : String) (value : Option Value) : Members :=
  match value with
  | some v => [(name, v)]
  | none => []

def Protection.toValue (p : Protection) : Value :=
  .object ([("scheme", .string p.scheme), ("profile", .string p.profile),
    ("algorithm", .string p.algorithm)] ++ p.extra)

def Properties.toValue (p : Properties) : Value :=
  .object (optionalMember "encrypted" (p.protection.map Protection.toValue) ++ p.extra)

def Link.toValue (link : Link) : Value :=
  .object (("href", .string link.href) ::
    optionalMember "type" (if link.type = "" then none else some (.string link.type)) ++
    optionalMember "properties" (link.properties.map Properties.toValue) ++ link.extra)

def Title.toValue : Title → Value
  | plain text => .string text
  | localized texts => .object (texts.map fun (tag, text) => (tag, .string text))

def Metadata.toValue (m : Metadata) : Value :=
  .object (optionalMember "title" (m.title.map Title.toValue) ++ m.extra)

namespace Publication

def toValue (publication : Publication) : Value :=
  let resources := publication.resources.map Link.toValue
  .object (optionalMember "@context" publication.context ++
    [("metadata", publication.metadata.toValue),
      ("readingOrder", .array (publication.readingOrder.map Link.toValue))] ++
    optionalMember "resources" (if resources.isEmpty then none else some (.array resources)) ++
    publication.extra)

def render (publication : Publication) : String := publication.toValue.render

end Publication

end Bindery
