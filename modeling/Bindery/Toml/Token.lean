import Bindery.Text.Bytes

/-! Tokens of TOML text, scanned one character at a time. Comments yield no token. -/
namespace Bindery.Toml

inductive Token where
  | mark (c : Char)
  | blank (blanks : List Char)
  | word (s : List Char)
  /-- A string. Long ones cannot be keys. -/
  | text (long : Bool) (s : List Char)
deriving DecidableEq, Repr

/-- Where in the text a scan stands. Parts of words and strings are held in reverse. -/
inductive Place where
  | gap
  | blanks (part : List Char)
  | word (part : List Char)
  | comment
  | lineBreak
  | opened (quote : Char)
  | openedTwice (quote : Char)
  /-- At the beginning of a long string, where one line break does not count. -/
  | longStart (quote : Char)
  | longStartBreak (quote : Char)
  | string (quote : Char) (long : Bool) (part : List Char)
  | quotes (quote : Char) (part : List Char) (count : Nat)
  | stringBreak (quote : Char) (part : List Char)
  | escape (long : Bool) (part : List Char)
  | digits (long : Bool) (part : List Char) (left value : Nat)
  /-- Behind a backslash and blanks in a long string; the flag says whether a line has ended. -/
  | continued (part : List Char) (broken : Bool)
  | continuedBreak (part : List Char)
deriving DecidableEq, Repr

def isBlank (c : Char) : Bool := c == ' ' || c == '\t'

def isMark (c : Char) : Bool := ".=,[]\x7b\x7d".toList.contains c

/-- Control characters, which no text may hold; the tab is not among them. -/
def isControl (c : Char) : Bool := (c < ' ' && c != '\t') || c == '\x7f'

def gapStep? (c : Char) : Option (Place × Option Token) :=
  if isBlank c then some (.blanks [c], none)
  else if c = '\n' then some (.gap, some (.mark '\n'))
  else if c = '\r' then some (.lineBreak, none)
  else if c = '#' then some (.comment, none)
  else if c = '"' ∨ c = '\'' then some (.opened c, none)
  else if isMark c then some (.gap, some (.mark c))
  else some (.word [c], none)

def gapAfter? (token : Token) (c : Char) : Option (Place × List Token) :=
  (gapStep? c).map fun (place, next) => (place, token :: next.toList)

def endsWord (c : Char) : Bool :=
  isBlank c || isMark c || c == '\n' || c == '\r' || c == '#' || c == '"' || c == '\''

def stringStep? (quote : Char) (long : Bool) (part : List Char) (c : Char) : Option Place :=
  if c = '\\' ∧ quote = '"' then some (.escape long part)
  else if c = '\n' ∧ long then some (.string quote long (c :: part))
  else if c = '\r' ∧ long then some (.stringBreak quote part)
  else if isControl c then none
  else some (.string quote long (c :: part))

def simpleEscape? (c : Char) : Option Char :=
  if c = '"' ∨ c = '\\' then some c
  else if c = 'b' then some '\x08'
  else if c = 't' then some '\t'
  else if c = 'n' then some '\n'
  else if c = 'f' then some '\x0c'
  else if c = 'r' then some '\r'
  else if c = 'e' then some '\x1b'
  else none

def digitCount? (c : Char) : Option Nat :=
  if c = 'x' then some 2 else if c = 'u' then some 4 else if c = 'U' then some 8 else none

def Place.step? (place : Place) (c : Char) : Option (Place × List Token) :=
  match place with
  | gap => (gapStep? c).map fun (place, token) => (place, token.toList)
  | blanks part =>
    if isBlank c then some (blanks (c :: part), []) else gapAfter? (.blank part.reverse) c
  | word part =>
    if endsWord c then gapAfter? (.word part.reverse) c else some (word (c :: part), [])
  | comment =>
    if c = '\n' then some (gap, [.mark '\n'])
    else if c = '\r' then some (lineBreak, [])
    else if isControl c then none
    else some (comment, [])
  | lineBreak => if c = '\n' then some (gap, [.mark '\n']) else none
  | opened quote =>
    if c = quote then some (openedTwice quote, [])
    else (stringStep? quote false [] c).map (·, [])
  | openedTwice quote =>
    if c = quote then some (longStart quote, []) else gapAfter? (.text false []) c
  | longStart quote =>
    if c = '\n' then some (string quote true [], [])
    else if c = '\r' then some (longStartBreak quote, [])
    else if c = quote then some (quotes quote [] 1, [])
    else (stringStep? quote true [] c).map (·, [])
  | longStartBreak quote => if c = '\n' then some (string quote true [], []) else none
  | string quote long part =>
    if c = quote then
      if long then some (quotes quote part 1, []) else some (gap, [.text false part.reverse])
    else (stringStep? quote long part c).map (·, [])
  | quotes quote part count =>
    if c = quote then
      if count = 4 then some (gap, [.text true (quote :: quote :: part).reverse])
      else some (quotes quote part (count + 1), [])
    else
      if count < 3 then
        (stringStep? quote true (List.replicate count quote ++ part) c).map (·, [])
      else gapAfter? (.text true (List.replicate (count - 3) quote ++ part).reverse) c
  | stringBreak quote part =>
    if c = '\n' then some (string quote true ('\n' :: '\r' :: part), []) else none
  | escape long part =>
    match simpleEscape? c, digitCount? c with
    | some e, _ => some (string '"' long (e :: part), [])
    | none, some count => some (digits long part count 0, [])
    | none, none =>
      if !long then none
      else if isBlank c then some (continued part false, [])
      else if c = '\n' then some (continued part true, [])
      else if c = '\r' then some (continuedBreak part, [])
      else none
  | digits long part left value => do
    let d ← hexValue? c
    let value := 16 * value + d
    if 1 < left then some (digits long part (left - 1) value, [])
    else if value.isValidChar then some (string '"' long (Char.ofNat value :: part), [])
    else none
  | continued part broken =>
    if isBlank c then some (continued part broken, [])
    else if c = '\n' then some (continued part true, [])
    else if c = '\r' then some (continuedBreak part, [])
    else if !broken then none
    else if c = '"' then some (quotes '"' part 1, [])
    else (stringStep? '"' true part c).map (·, [])
  | continuedBreak part => if c = '\n' then some (continued part true, []) else none

def Place.finish? : Place → Option (List Token)
  | gap | comment => some []
  | blanks part => some [.blank part.reverse]
  | word part => some [.word part.reverse]
  | openedTwice _ => some [.text false []]
  | quotes quote part count =>
    if count < 3 then none
    else some [.text true (List.replicate (count - 3) quote ++ part).reverse]
  | _ => none

def scanFrom? (place : Place) (seen : List Token) : List Char → Option (List Token)
  | [] => place.finish?.map fun tokens => (tokens.reverse ++ seen).reverse
  | c :: rest =>
    match place.step? c with
    | some (place, tokens) => scanFrom? place (tokens.reverse ++ seen) rest
    | none => none

def scan? (text : List Char) : Option (List Token) :=
  match text with
  | '\ufeff' :: rest => scanFrom? .gap [] rest
  | _ => scanFrom? .gap [] text

end Bindery.Toml
