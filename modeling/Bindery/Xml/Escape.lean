import Bindery.Text.Numeral

/-! Markup characters in text: each of the five is written as an entity reference, and reading
replaces the five references and the numeric ones by the characters they name. -/
namespace Bindery.Xml

def escapeChar (c : Char) : List Char :=
  if c = '&' then "&amp;".toList
  else if c = '<' then "&lt;".toList
  else if c = '>' then "&gt;".toList
  else if c = '"' then "&quot;".toList
  else if c = '\'' then "&apos;".toList
  else [c]

def escape (s : String) : String := spell (s.toList.flatMap escapeChar)

/-- The number that digits of a base spell; none without a digit or with a stranger among them. -/
def radixNumber? (base : Nat) (s : List Char) : Option Nat :=
  if s.isEmpty then none
  else s.foldlM (fun n c =>
    ((hexValue? c).filter (· < base)).map (base * n + ·)) 0

/-- The character with a number, unless the number is zero or no Unicode scalar value. -/
def scalar? (n : Nat) : Option Char :=
  if 0 < n ∧ n.isValidChar then some (Char.ofNat n) else none

/-- The character that a reference names, given what stands between `&` and `;`. -/
def entity? : List Char → Option Char
  | '#' :: 'x' :: digits => (radixNumber? 16 digits).bind scalar?
  | '#' :: digits => (radixNumber? 10 digits).bind scalar?
  | name =>
    if name = "lt".toList then some '<'
    else if name = "gt".toList then some '>'
    else if name = "amp".toList then some '&'
    else if name = "apos".toList then some '\''
    else if name = "quot".toList then some '"'
    else none

/-- Reads escaped text that follows the reversed text `seen`; inside a reference the second
argument holds its name so far, reversed. -/
def unescapeFrom (seen : List Char) : Option (List Char) → List Char → Option (List Char)
  | none, [] => some seen.reverse
  | some _, [] => none
  | none, c :: rest =>
    if c = '&' then unescapeFrom seen (some []) rest else unescapeFrom (c :: seen) none rest
  | some name, c :: rest =>
    if c = ';' then
      match entity? name.reverse with
      | some e => unescapeFrom (e :: seen) none rest
      | none => none
    else if c = '&' then none
    else unescapeFrom seen (some (c :: name)) rest

/-- The text that an escaped text stands for; none if some `&` starts no reference. -/
def unescape? (s : List Char) : Option (List Char) := unescapeFrom [] none s

end Bindery.Xml
