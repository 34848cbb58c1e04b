import Bindery.Error
import Bindery.Text.Blank
import Bindery.Xml.Escape

/-! Attributes of a tag: names, each followed by an equals sign and a quoted value. -/
namespace Bindery.Xml

/-- An attribute with its value as it is written. -/
structure Attribute where
  name : List Char
  raw : List Char
deriving DecidableEq, Repr

/-- Where among the attributes of a tag a scan stands. -/
inductive AttributePlace where
  | gap
  /-- In a name, of which the part so far is held in reverse. It has at least one character,
  whatever that is. -/
  | name (part : List Char)
  | equals (name : List Char)
  | value (name : List Char)
  | quoted (name : List Char) (quote : Char) (part : List Char)
deriving DecidableEq, Repr

def AttributePlace.step (place : AttributePlace) (c : Char) :
    Except AttributeFault (AttributePlace × Option Attribute) :=
  match place with
  | gap => if isXmlBlank c then .ok (gap, none) else .ok (name [c], none)
  | name part =>
    if c = '=' then .ok (value part.reverse, none)
    else if isXmlBlank c then .ok (equals part.reverse, none)
    else .ok (name (c :: part), none)
  | equals n =>
    if isXmlBlank c then .ok (equals n, none)
    else if c = '=' then .ok (value n, none)
    else .error .noEquals
  | value n =>
    if isXmlBlank c then .ok (value n, none)
    else if c = '"' ∨ c = '\'' then .ok (quoted n c [], none)
    else .error .unquoted
  | quoted n quote part =>
    if c = quote then .ok (gap, some ⟨n, part.reverse⟩) else .ok (quoted n quote (c :: part), none)

def AttributePlace.fault? : AttributePlace → Option AttributeFault
  | gap => none
  | name _ | equals _ => some .noEquals
  | value _ => some .noValue
  | quoted .. => some .unclosed

/-- The attributes in the inside of a tag, up to its end or to a fault, and that fault. -/
def attributesFrom (place : AttributePlace) (seen : List Attribute) :
    List Char → List Attribute × Option AttributeFault
  | [] => (seen.reverse, place.fault?)
  | c :: rest =>
    match place.step c with
    | .ok (place, found) => attributesFrom place (found.toList ++ seen) rest
    | .error fault => (seen.reverse, some fault)

def attributes (inside : List Char) : List Attribute × Option AttributeFault :=
  attributesFrom .gap [] inside

def Attribute.value (a : Attribute) : Result String :=
  match unescape? a.raw with
  | some text => .ok (spell text)
  | none => .error (.format (.badAttributeValue (spell a.raw)))

def valueOfBytes (raw : Bytes) : Result String :=
  match utf8Text? raw with
  | some text => Attribute.value ⟨[], text.toList⟩
  | none => .error (.format .badAttributeBytes)

/-- All attributes with their values, each name once, unless a fault comes before their end. -/
def valuesFrom (names : List (List Char)) (fault : Option AttributeFault) :
    List Attribute → Result (List (String × String))
  | [] =>
    match fault with
    | none => .ok []
    | some fault => .error (.format (.attributes fault))
  | a :: rest =>
    if names.contains a.name then .error (.format (.attributes (.duplicate (spell a.name))))
    else do
      let value ← a.value
      let values ← valuesFrom (a.name :: names) fault rest
      .ok ((spell a.name, value) :: values)

def values (inside : List Char) : Result (List (String × String)) :=
  let (found, fault) := attributes inside
  valuesFrom [] fault found

/-- The value of the attribute `name`. Attributes behind it are not looked at. -/
def valueFrom? (name : List Char) (names : List (List Char)) (fault : Option AttributeFault) :
    List Attribute → Result (Option String)
  | [] =>
    match fault with
    | none => .ok none
    | some fault => .error (.format (.attributes fault))
  | a :: rest =>
    if names.contains a.name then .error (.format (.attributes (.duplicate (spell a.name))))
    else if a.name = name then a.value.map some
    else valueFrom? name (a.name :: names) fault rest

def value? (inside : List Char) (name : String) : Result (Option String) :=
  let (found, fault) := attributes inside
  valueFrom? name.toList [] fault found

end Bindery.Xml
