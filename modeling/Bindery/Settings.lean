import Bindery.Error
import Bindery.Toml.Quoted
import Bindery.Toml.Reader

/-! Settings of a packaging pass, read from TOML and written to it. Every setting has a default, so
an empty text gives the default settings; settings that are not known are passed over. -/
namespace Bindery

/-- What becomes of a mark for a path at which nothing was written. -/
inductive UnmatchedPolicy where
  | ignore
  | reject
deriving DecidableEq, Repr

def UnmatchedPolicy.name : UnmatchedPolicy → String
  | ignore => "ignore"
  | reject => "reject"

def UnmatchedPolicy.ofName? (name : String) : Option UnmatchedPolicy :=
  if name = "ignore" then some ignore else if name = "reject" then some reject else none

structure Settings where
  unmatched : UnmatchedPolicy := .ignore
  scheme : String := "http://readium.org/2014/01/lcp"
  keyUri : String := "license.lcpl#/encryption/content_key"
  keyType : String := "http://readium.org/2014/01/lcp#EncryptedContentKey"
deriving DecidableEq, Repr

namespace Settings

def malformed {α : Type} (reason : String) : Result α := .error (.settings (.malformed reason))

/-- The policy of a value: its name, or a table whose only key is the name and holds nothing. -/
def policyOf (node : Toml.Node) : Result UnmatchedPolicy :=
  let found := match node with
    | .text name => UnmatchedPolicy.ofName? name
    | .table _ [(name, .table _ [])] => UnmatchedPolicy.ofName? name
    | .table _ [(name, .array [])] => UnmatchedPolicy.ofName? name
    | _ => none
  match found with
  | some policy => .ok policy
  | none => malformed "unmatched_mark must be ignore or reject"

def textOf (entries : Toml.Entries) (key default : String) : Result String :=
  match entries.get? key with
  | none => .ok default
  | some (.text s) => .ok s
  | some _ => malformed s!"{key} must be a string"

def read (text : String) : Result Settings := do
  match Toml.read? text.toList with
  | none => malformed "no TOML text"
  | some entries =>
    let unmatched ← match entries.get? "unmatched_mark" with
      | none => .ok ({} : Settings).unmatched
      | some node => policyOf node
    .ok {
      unmatched
      scheme := ← textOf entries "encryption_scheme" ({} : Settings).scheme
      keyUri := ← textOf entries "content_key_uri" ({} : Settings).keyUri
      keyType := ← textOf entries "content_key_type" ({} : Settings).keyType }

/-- The settings of a file with the given content; none stands for no file. -/
def ofContent (content : Option Bytes) : Result Settings :=
  match content.bind utf8Text? with
  | some text => read text
  | none => .error (.settings .unreadable)

def line (key value : String) : String :=
  key ++ " = " ++ spell (Toml.quoted value.toList) ++ "\n"

def render (s : Settings) : String :=
  line "unmatched_mark" s.unmatched.name ++ line "encryption_scheme" s.scheme ++
    line "content_key_uri" s.keyUri ++ line "content_key_type" s.keyType

end Settings
end Bindery
