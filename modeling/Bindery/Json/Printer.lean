import Bindery.Json.Value
import Bindery.Text.Bytes

/-! Compact JSON text. -/
namespace Bindery.Json

/-- A character of a string as it is written: quotes, backslashes and control characters are
escaped, the five common controls by a letter. -/
def escapeChar (c : Char) : List Char :=
  if c = '"' then ['\\', '"']
  else if c = '\\' then ['\\', '\\']
  else if c = '\x08' then ['\\', 'b']
  else if c = '\x0c' then ['\\', 'f']
  else if c = '\n' then ['\\', 'n']
  else if c = '\r' then ['\\', 'r']
  else if c = '\t' then ['\\', 't']
  else if c < ' ' then
    ['\\', 'u', '0', '0', (hexDigit (c.toNat / 16)).toLower, (hexDigit (c.toNat % 16)).toLower]
  else [c]

def quote (s : String) : String :=
  "\"" ++ spell (s.toList.flatMap escapeChar) ++ "\""

def commaList (parts : List String) : String := String.intercalate "," parts

def objectText (members : List (String × String)) : String :=
  "\x7b" ++ commaList (members.map fun (name, text) => quote name ++ ":" ++ text) ++ "\x7d"

def arrayText (items : List String) : String := "[" ++ commaList items ++ "]"

mutual

def Value.render : Value → String
  | .null => "null"
  | .bool b => if b then "true" else "false"
  | .number n => n.render
  | .string s => quote s
  | .array items => arrayText (renderItems items)
  | .object members => objectText (renderMembers members)

def renderItems : List Value → List String
  | [] => []
  | v :: rest => v.render :: renderItems rest

def renderMembers : List (String × Value) → List (String × String)
  | [] => []
  | (name, v) :: rest => (name, v.render) :: renderMembers rest

end

end Bindery.Json
