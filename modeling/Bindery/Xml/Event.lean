import Bindery.Xml.Namespace

/-! Elements as they begin and end, with their names resolved. End tags must match the innermost
open element; elements that the end of the text leaves open are not a fault here. -/
namespace Bindery.Xml

/-- What happens along a document. An empty element begins and ends. -/
inductive Event where
  | start (space : Option String) (label : String) (tag : Tag)
  | stop
  | text (content : List Char)
deriving DecidableEq, Repr

/-- The open elements, innermost first: each with its name as written and the scope inside it. -/
abbrev Nest := List (String × Scope)

def Nest.scope : Nest → Scope
  | [] => []
  | (_, scope) :: _ => scope

def Scope.start (scope : Scope) (tag : Tag) : Event :=
  let (space, label) := scope.resolve tag.name
  .start space label tag

def Nest.step (nest : Nest) (token : Token) : Except MarkupFault (Nest × List Event) :=
  match token with
  | .text content => .ok (nest, [.text content])
  | .opening tag => do
    let scope ← nest.scope.enter tag
    .ok ((tag.name, scope) :: nest, [scope.start tag])
  | .empty tag => do
    let scope ← nest.scope.enter tag
    .ok (nest, [scope.start tag, .stop])
  | .closing name =>
    match nest with
    | (innermost, _) :: outer =>
      if innermost = name then .ok (outer, [.stop]) else .error (.unmatchedEnd name)
    | [] => .error (.unmatchedEnd name)

/-- The events of tokens behind the reversed events `seen`, up to the end or to a fault. -/
def eventsFrom (nest : Nest) (seen : List Event) (fault : Option MarkupFault) :
    List Token → List Event × Option MarkupFault
  | [] => (seen.reverse, fault)
  | token :: rest =>
    match nest.step token with
    | .ok (nest, found) => eventsFrom nest (found.reverse ++ seen) fault rest
    | .error fault => (seen.reverse, some fault)

/-- The events of a text up to its end or to the first fault, and that fault. -/
def events (text : String) : List Event × Option MarkupFault :=
  let (tokens, fault) := scan text.toList
  eventsFrom [] [] fault tokens

end Bindery.Xml
