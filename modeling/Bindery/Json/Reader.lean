import Bindery.Json.Token

/-! Reading of JSON text: the tokens are put together on a stack of unfinished containers. -/
namespace Bindery.Json

/-- A container part way through: what it holds so far, in reverse. In an object a value is
awaited for the name. -/
inductive Frame where
  | array (items : List Value)
  | object (members : List (String × Value)) (name : String)
deriving Repr

/-- What may come next. -/
inductive Expected where
  | value
  | item
  /-- A name, or the end of the object that has just begun; its members so far are empty. -/
  | member
  | name (members : List (String × Value))
  | colon (members : List (String × Value)) (name : String)
  | next (v : Value)
deriving Repr

/-- The reader between two tokens: the open containers, innermost first, and what may come. -/
structure Reader where
  stack : List Frame := []
  expected : Expected := .value
deriving Repr

def depthLimit : Nat := 127

def Reader.begin? (r : Reader) (c : Char) : Option Reader :=
  if depthLimit ≤ r.stack.length then none
  else if c = '[' then some ⟨.array [] :: r.stack, .item⟩
  else some ⟨.object [] "" :: r.stack, .member⟩

def Reader.value? (r : Reader) (token : Token) : Option Reader :=
  match token with
  | .leaf v => some { r with expected := .next v }
  | .mark c => if c = '[' ∨ c = '\x7b' then r.begin? c else none

def Reader.step? (r : Reader) (token : Token) : Option Reader :=
  match r.expected, r.stack, token with
  | .value, _, _ => r.value? token
  | .item, .array _ :: stack, .mark ']' => some ⟨stack, .next (.array [])⟩
  | .item, _, _ => r.value? token
  | .member, .object _ _ :: stack, .mark '\x7d' => some ⟨stack, .next (.object [])⟩
  | .member, _, .leaf (.string name) => some { r with expected := .colon [] name }
  | .name members, _, .leaf (.string name) => some { r with expected := .colon members name }
  | .colon members name, .object _ _ :: stack, .mark ':' =>
    some ⟨.object members name :: stack, .value⟩
  | .next v, .array items :: stack, .mark ',' => some ⟨.array (v :: items) :: stack, .value⟩
  | .next v, .array items :: stack, .mark ']' =>
    some ⟨stack, .next (.array (v :: items).reverse)⟩
  | .next v, .object members name :: stack, .mark ',' =>
    let members := (name, v) :: members
    some ⟨.object members name :: stack, .name members⟩
  | .next v, .object members name :: stack, .mark '\x7d' =>
    some ⟨stack, .next (.object ((name, v) :: members).reverse)⟩
  | _, _, _ => none

def Reader.finish? (r : Reader) : Option Value :=
  match r.stack, r.expected with
  | [], .next v => some v
  | _, _ => none

def Value.read? (text : List Char) : Option Value := do
  let tokens ← scan? text
  let reader ← tokens.foldlM Reader.step? {}
  reader.finish?

end Bindery.Json
