import Bindery.Error
import Bindery.Text.Blank
import Bindery.Text.Bytes

/-! Tokens of markup. A text is scanned one character at a time by a machine whose place says what
kind of markup it stands in; comments, processing instructions, CDATA sections, references and the
document type are recognised and yield no token. What stands between them is character data. -/
namespace Bindery.Xml

/-- What a tag holds between its delimiters: a name and, unread, its attributes. -/
structure Tag where
  name : String
  attributes : List Char
deriving DecidableEq, Repr

def Tag.ofInside (inside : List Char) : Tag :=
  ⟨spell (inside.takeWhile (! isXmlBlank ·)), inside.dropWhile (! isXmlBlank ·)⟩

inductive Token where
  | opening (tag : Tag)
  | empty (tag : Tag)
  | closing (name : String)
  /-- A run of character data without the blanks around it, never empty. -/
  | text (content : List Char)
deriving DecidableEq, Repr

/-- The name in an end tag. Blanks behind a name are dropped; blanks without one stay, so that they
match no element. -/
def closingName (inside : List Char) : String :=
  match trimEnd isXmlBlank inside with
  | [] => spell inside
  | name => spell name

def Token.ofInside : List Char → Token
  | '/' :: inside => closing (closingName inside)
  | inside =>
    if inside.getLast? = some '/' then empty (Tag.ofInside inside.dropLast)
    else opening (Tag.ofInside inside)

/-- Where in the markup a scan stands. -/
inductive Place where
  | content (data : List Char)
  | reference
  | markup
  | tag (inside : List Char) (quote : Option Char)
  | instructionStart
  | instruction (mark : Bool)
  | declaration
  | commentStart
  /-- In a comment; the number counts the dashes that came last, up to two. -/
  | comment (dashes : Nat)
  | cdataStart (expected : List Char)
  /-- In a CDATA section; the number counts the brackets that came last, up to two. -/
  | cdata (brackets : Nat)
  | doctypeStart (expected : List Char)
  /-- After the keyword, maybe between quotes; the flag says whether a name has begun. -/
  | doctype (named : Bool) (quote : Option Char)
  | subset
  | subsetMarkup
  | subsetKeyword (read : List Char)
  | subsetDeclaration (quote : Option Char)
  /-- In other markup between the brackets. It ends at the first closing angle bracket. -/
  | subsetOther
  | subsetComment (dashes : Nat)
  | subsetInstruction (mark : Bool)
  | doctypeEnd
deriving DecidableEq, Repr

def textToken (data : List Char) : Option Token :=
  match data.dropWhile isXmlBlank with
  | [] => none
  | kept => some (.text kept.reverse)

def isQuote (c : Char) : Bool := c == '"' || c == '\''

def quoteAfter (quote : Option Char) (c : Char) : Option Char :=
  match quote with
  | some q => if c = q then none else some q
  | none => if isQuote c then some c else none

/-- The declarations that may hold quoted text. Case counts. -/
def quotingKeywords : List (List Char) :=
  ["ENTITY".toList, "ATTLIST".toList, "NOTATION".toList]

def Place.ofKeyword (read : List Char) : Place :=
  if read = "--".toList then subsetComment 0
  else if quotingKeywords.contains read then subsetDeclaration none
  else if ("--".toList :: quotingKeywords).any read.isPrefixOf then subsetKeyword read
  else subsetOther

def Place.step (place : Place) (c : Char) : Except MarkupFault (Place × Option Token) :=
  match place with
  | content data =>
    if c = '<' then .ok (markup, textToken data)
    else if c = '&' then .ok (reference, textToken data)
    else if data.isEmpty && isXmlBlank c then .ok (content [], none)
    else .ok (content (c :: data), none)
  | reference =>
    if c = ';' then .ok (content [], none)
    else if c = '&' ∨ c = '<' then .error .badReference
    else .ok (reference, none)
  | markup =>
    if c = '?' then .ok (instructionStart, none)
    else if c = '!' then .ok (declaration, none)
    else if c = '>' then .ok (content [], some (Token.ofInside []))
    else .ok (tag [c] (quoteAfter none c), none)
  | tag inside quote =>
    if c = '>' ∧ quote = none then .ok (content [], some (Token.ofInside inside.reverse))
    else .ok (tag (c :: inside) (quoteAfter quote c), none)
  | instructionStart =>
    if c = '>' then .error (.unclosed "processing instruction")
    else .ok (instruction (c == '?'), none)
  | instruction mark =>
    if c = '>' ∧ mark then .ok (content [], none) else .ok (instruction (c == '?'), none)
  | declaration =>
    if c = '-' then .ok (commentStart, none)
    else if c = '[' then .ok (cdataStart "CDATA[".toList, none)
    else if c = 'D' ∨ c = 'd' then .ok (doctypeStart "octype".toList, none)
    else .error .badDeclaration
  | commentStart =>
    if c = '-' then .ok (comment 0, none) else .error (.unclosed "comment")
  | comment dashes =>
    if c = '>' ∧ 2 ≤ dashes then .ok (content [], none)
    else .ok (comment (if c = '-' then dashes + 1 else 0), none)
  | cdataStart expected =>
    match expected with
    | [e] => if c = e then .ok (cdata 0, none) else .error (.unclosed "CDATA section")
    | e :: rest =>
      if c = e then .ok (cdataStart rest, none) else .error (.unclosed "CDATA section")
    | [] => .error (.unclosed "CDATA section")
  | cdata brackets =>
    if c = '>' ∧ 2 ≤ brackets then .ok (content [], none)
    else .ok (cdata (if c = ']' then brackets + 1 else 0), none)
  | doctypeStart expected =>
    match expected with
    | [e] => if c.toLower = e then .ok (doctype false none, none) else .error .badDeclaration
    | e :: rest =>
      if c.toLower = e then .ok (doctypeStart rest, none) else .error .badDeclaration
    | [] => .error .badDeclaration
  | doctype named quote =>
    if c = '>' ∧ quote = none then
      if named then .ok (content [], none) else .error .badDeclaration
    else if c = '[' ∧ quote = none then .ok (subset, none)
    else .ok (doctype (named || ! isXmlBlank c) (quoteAfter quote c), none)
  | subset =>
    if c = ']' then .ok (doctypeEnd, none)
    else if c = '<' then .ok (subsetMarkup, none)
    else .ok (subset, none)
  | subsetMarkup =>
    if c = '?' then .ok (subsetInstruction false, none)
    else if c = '!' then .ok (subsetKeyword [], none)
    else if c = '>' then .ok (subset, none)
    else .ok (subsetOther, none)
  | subsetKeyword read =>
    if c = '>' then .ok (subset, none) else .ok (Place.ofKeyword (read ++ [c]), none)
  | subsetDeclaration quote =>
    if c = '>' ∧ quote = none then .ok (subset, none)
    else .ok (subsetDeclaration (quoteAfter quote c), none)
  | subsetOther => if c = '>' then .ok (subset, none) else .ok (subsetOther, none)
  | subsetComment dashes =>
    if c = '>' ∧ 2 ≤ dashes then .ok (subset, none)
    else .ok (subsetComment (if c = '-' then dashes + 1 else 0), none)
  | subsetInstruction mark =>
    if c = '>' ∧ mark then .ok (subset, none) else .ok (subsetInstruction (c == '?'), none)
  | doctypeEnd => if c = '>' then .ok (content [], none) else .ok (doctypeEnd, none)

/-- The token that the end of the text completes; only character data may end there. -/
def Place.finish : Place → Except MarkupFault (Option Token)
  | content data => .ok (textToken data)
  | _ => .error (.unclosed "markup")

/-- Scans text from a place on, behind the reversed tokens `seen`: the tokens up to the end or up
to a fault, and that fault. -/
def scanFrom (place : Place) (seen : List Token) : List Char → List Token × Option MarkupFault
  | [] =>
    match place.finish with
    | .ok token => ((token.toList ++ seen).reverse, none)
    | .error fault => (seen.reverse, some fault)
  | c :: rest =>
    match place.step c with
    | .ok (place, token) => scanFrom place (token.toList ++ seen) rest
    | .error fault => (seen.reverse, some fault)

def scan (text : List Char) : List Token × Option MarkupFault :=
  match text with
  | '\ufeff' :: rest => scanFrom (.content []) [] rest
  | _ => scanFrom (.content []) [] text

end Bindery.Xml
