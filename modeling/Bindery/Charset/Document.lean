import Bindery.Error
import Bindery.Charset.Basic

/-! Decoding of XML documents: a byte order mark decides first, then the label that the XML
declaration names, and UTF-8 is the default. -/
namespace Bindery.Charset

def declaredIn? (declaration : List Char) : Option String := do
  let (_, afterKey) ← cut? "encoding".toList declaration
  match trimStart isBlank afterKey with
  | '=' :: afterEquals =>
    match trimStart isBlank afterEquals with
    | quote :: value =>
      if quote = '"' ∨ quote = '\'' then
        (cut? [quote] value).map fun (label, _) => spell label
      else none
    | [] => none
  | _ => none

/-- The label that a document's XML declaration names for its charset. Only documents whose
declaration is readable byte by byte have one. -/
def declared? (bytes : Bytes) : Option String :=
  if (utf8Bytes "<?xml").isPrefixOf bytes then do
    let (head, _) ← cut? (utf8Bytes "?>") bytes
    let text ← utf8Text? head
    declaredIn? text.toList
  else none

def resolve (bytes : Bytes) : Result (Charset × Nat) :=
  match ofMark? bytes with
  | some found => .ok found
  | none =>
    match declared? bytes with
    | none => .ok (utf8, 0)
    | some label =>
      match ofLabel? label with
      | some charset => .ok (charset.ofDeclared, 0)
      | none => .error (.format (.unsupportedCharset label))

def decodeDocument (bytes : Bytes) : Result String := do
  let (charset, mark) ← resolve bytes
  match charset.decode? (bytes.drop mark) with
  | some text => .ok text
  | none => .error (.format (.undecodable charset.name))

end Bindery.Charset
