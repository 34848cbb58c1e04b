import Bindery.Json.Number

/-! Values of JSON. The members of an object stand in the order of the text, repetitions included;
the canonical form sorts them and keeps the last of each name. -/
namespace Bindery.Json

inductive Value where
  | null
  | bool (b : Bool)
  | number (n : Number)
  | string (s : String)
  | array (items : List Value)
  | object (members : List (String × Value))
deriving Repr, Inhabited

abbrev Members := List (String × Value)

namespace Members

def insert {α : Type} (name : String) (value : α) : List (String × α) → List (String × α)
  | [] => [(name, value)]
  | (n, v) :: rest =>
    if name < n then (name, value) :: (n, v) :: rest
    else if name = n then (name, value) :: rest
    else (n, v) :: insert name value rest

/-- Members sorted by name, the last of each name. -/
def sort {α : Type} (members : List (String × α)) : List (String × α) :=
  members.foldl (fun sorted (name, value) => insert name value sorted) []

end Members

mutual

/-- The value with the members of every object in it sorted and without repetitions. -/
def Value.canonical : Value → Value
  | .array items => .array (canonicalItems items)
  | .object members => .object (Members.sort (canonicalMembers members))
  | .null => .null
  | .bool b => .bool b
  | .number n => .number n
  | .string s => .string s

def canonicalItems : List Value → List Value
  | [] => []
  | v :: rest => v.canonical :: canonicalItems rest

def canonicalMembers : List (String × Value) → List (String × Value)
  | [] => []
  | (name, v) :: rest => (name, v.canonical) :: canonicalMembers rest

end

end Bindery.Json
