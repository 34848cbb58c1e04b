import Bindery.Json.Value
import Bindery.Text.Bytes

/-! Tokens of JSON text, scanned one character at a time. -/
namespace Bindery.Json

inductive Token where
  | mark (c : Char)
  | leaf (v : Value)
deriving Repr

/-- What an escape in a string has shown so far. -/
inductive Escape where
  | start
  | digits (count value : Nat)
deriving DecidableEq, Repr

/-- Where in the text a scan stands. -/
inductive Place where
  | gap
  | word (part : List Char)
  /-- In a string, held in reverse; maybe after the first half of a surrogate pair, which the next
  escape has to complete, and maybe in an escape. -/
  | string (part : List Char) (high : Option Nat) (escape : Option Escape)
deriving DecidableEq, Repr

def isBlank (c : Char) : Bool := c == ' ' || c == '\t' || c == '\n' || c == '\r'

def isMark (c : Char) : Bool := "[]\x7b\x7d:,".toList.contains c

def word? (word : List Char) : Option Value :=
  if word = "null".toList then some .null
  else if word = "true".toList then some (.bool true)
  else if word = "false".toList then some (.bool false)
  else (Number.read? word).map .number

def simpleEscape? (c : Char) : Option Char :=
  if c = '"' ∨ c = '\\' ∨ c = '/' then some c
  else if c = 'b' then some '\x08'
  else if c = 'f' then some '\x0c'
  else if c = 'n' then some '\n'
  else if c = 'r' then some '\r'
  else if c = 't' then some '\t'
  else none

def unitPlace? (part : List Char) (high : Option Nat) (unit : Nat) : Option Place :=
  match high with
  | some h =>
    if 0xDC00 ≤ unit ∧ unit < 0xE000 then
      let c := Char.ofNat (0x10000 + 0x400 * (h - 0xD800) + (unit - 0xDC00))
      some (.string (c :: part) none none)
    else none
  | none =>
    if 0xD800 ≤ unit ∧ unit < 0xDC00 then some (.string part (some unit) none)
    else if 0xDC00 ≤ unit ∧ unit < 0xE000 then none
    else some (.string (Char.ofNat unit :: part) none none)

def gapStep? (c : Char) : Option (Place × Option Token) :=
  if isBlank c then some (.gap, none)
  else if isMark c then some (.gap, some (.mark c))
  else if c = '"' then some (.string [] none none, none)
  else some (.word [c], none)

def Place.step? (place : Place) (c : Char) : Option (Place × List Token) :=
  match place with
  | gap => (gapStep? c).map fun (place, token) => (place, token.toList)
  | word part =>
    if isBlank c || isMark c || c == '"' then do
      let v ← word? part.reverse
      let (place, token) ← gapStep? c
      some (place, .leaf v :: token.toList)
    else some (word (c :: part), [])
  | string part high none =>
    if c = '\\' then some (string part high (some .start), [])
    else if high.isSome ∨ c < ' ' then none
    else if c = '"' then some (gap, [.leaf (.string (spell part.reverse))])
    else some (string (c :: part) none none, [])
  | string part high (some .start) =>
    if c = 'u' then some (string part high (some (.digits 0 0)), [])
    else if high.isSome then none
    else (simpleEscape? c).map fun e => (string (e :: part) none none, [])
  | string part high (some (.digits count value)) => do
    let d ← hexValue? c
    let value := 16 * value + d
    if count < 3 then some (string part high (some (.digits (count + 1) value)), [])
    else (unitPlace? part high value).map (·, [])

def scanFrom? (place : Place) (seen : List Token) : List Char → Option (List Token)
  | [] =>
    match place with
    | .gap => some seen.reverse
    | .word part => (word? part.reverse).map fun v => (Token.leaf v :: seen).reverse
    | .string .. => none
  | c :: rest =>
    match place.step? c with
    | some (place, tokens) => scanFrom? place (tokens.reverse ++ seen) rest
    | none => none

/-- The tokens of a text; none if some part of it is no token. -/
def scan? (text : List Char) : Option (List Token) := scanFrom? .gap [] text

end Bindery.Json
