import Bindery.Json.Value

/-! Publications: the manifest of a reading-order package. Only the members that packaging acts on
have fields of their own; all others are kept, sorted by name, beside them. -/
namespace Bindery

open Json (Members Value)

structure Protection where
  scheme : String
  profile : String
  algorithm : String
  extra : Members := []

structure Properties where
  protection : Option Protection := none
  extra : Members := []

/-- A link to a resource inside the container. -/
structure Link where
  href : String
  type : String := ""
  properties : Option Properties := none
  extra : Members := []

/-- A title: one text, or one for each language. -/
inductive Title where
  | plain (text : String)
  | localized (texts : List (String × String))

def Title.text? : Title → Option String
  | plain text => some text
  | localized texts => texts.head?.map Prod.snd

structure Metadata where
  title : Option Title := none
  extra : Members := []

structure Publication where
  context : Option Value := none
  metadata : Metadata := {}
  readingOrder : List Link := []
  resources : List Link := []
  extra : Members := []

namespace Link

def protection? (link : Link) : Option Protection := link.properties.bind (·.protection)

def isProtected (link : Link) : Bool := link.protection?.isSome

/-- The link for an entry of the given type that is written anew. Other members and properties
survive; the protection does not, since the new entry is plain until it is marked. -/
def carriedOver (link : Link) (type : String) : Link :=
  let properties := match link.properties with
    | some p => if p.extra.isEmpty then none else some { p with protection := none }
    | none => none
  { link with type, properties }

def protect (link : Link) (p : Protection) : Link :=
  { link with properties := some { link.properties.getD {} with protection := some p } }

end Link

namespace Publication

def link? (publication : Publication) (href : String) : Option Link :=
  publication.readingOrder.find? (·.href = href)

def updateFirst (href : String) (change : Link → Link) : List Link → List Link
  | [] => []
  | link :: rest =>
    if link.href = href then change link :: rest else link :: updateFirst href change rest

def protect (publication : Publication) (href : String) (p : Protection) : Publication :=
  { publication with readingOrder := updateFirst href (·.protect p) publication.readingOrder }

end Publication

end Bindery
