import Bindery.Error
import Bindery.Json.Reader
import Bindery.Publication.Basic
import Bindery.Text.Bytes

/-! Publications from JSON. A known member may occur once and must have its form; of any other the
last occurrence counts. -/
namespace Bindery

open Json (Members Value)

/-- The failure of a manifest that is JSON but not of the required form. -/
def malformed {α : Type} (reason : String) : Result α := .error (.format (.json reason))

/-- The value of a known member. It may occur only once. -/
def known (name : String) (members : Members) : Result (Option Value) :=
  match members.filter (·.1 = name) with
  | [] => .ok none
  | [(_, v)] => .ok (some v)
  | _ => malformed s!"member {name} occurs twice"

def knownOption (name : String) (members : Members) : Result (Option Value) := do
  match ← known name members with
  | some .null => .ok none
  | found => .ok found

/-- The members whose names are not known, in canonical form. -/
def others (names : List String) (members : Members) : Members :=
  Members.sort (Json.canonicalMembers (members.filter fun (name, _) => ! names.contains name))

def membersOf (what : String) : Value → Result Members
  | .object members => .ok members
  | _ => malformed s!"{what} must be an object"

def textOf (what : String) : Value → Result String
  | .string s => .ok s
  | _ => malformed s!"{what} must be a string"

def requiredText (name : String) (members : Members) : Result String := do
  match ← known name members with
  | some v => textOf name v
  | none => malformed s!"member {name} is missing"

def Protection.ofValue (v : Value) : Result Protection := do
  let members ← membersOf "an encryption record" v
  .ok {
    scheme := ← requiredText "scheme" members
    profile := ← requiredText "profile" members
    algorithm := ← requiredText "algorithm" members
    extra := others ["scheme", "profile", "algorithm"] members }

def Properties.ofValue (v : Value) : Result Properties := do
  let members ← membersOf "properties" v
  .ok {
    protection := ← (← knownOption "encrypted" members).mapM Protection.ofValue
    extra := others ["encrypted"] members }

def Link.ofValue (v : Value) : Result Link := do
  let members ← membersOf "a link" v
  .ok {
    href := ← requiredText "href" members
    type := (← (← known "type" members).mapM (textOf "type")).getD ""
    properties := ← (← knownOption "properties" members).mapM Properties.ofValue
    extra := others ["href", "type", "properties"] members }

/-- The links of a known member, none without it. -/
def linksOf (name : String) (members : Members) : Result (List Link) := do
  match ← known name members with
  | none => .ok []
  | some (.array items) => items.mapM Link.ofValue
  | some _ => malformed s!"{name} must be an array"

/-- A title. Of two texts for one language the last counts, but every one must be a text. -/
def Title.ofValue (v : Value) : Result Title :=
  match v with
  | .string text => .ok (.plain text)
  | .object members => do
    let texts ← members.mapM fun (tag, v) => do .ok (tag, ← textOf "a title" v)
    .ok (.localized (Members.sort texts))
  | _ => malformed "a title must be a string or an object"

def Metadata.ofValue (v : Value) : Result Metadata := do
  let members ← membersOf "metadata" v
  .ok {
    title := ← (← knownOption "title" members).mapM Title.ofValue
    extra := others ["title"] members }

namespace Publication

def ofValue (v : Value) : Result Publication := do
  let members ← membersOf "a publication" v
  .ok {
    context := (← knownOption "@context" members).map Value.canonical
    metadata := (← (← known "metadata" members).mapM Metadata.ofValue).getD {}
    readingOrder := ← linksOf "readingOrder" members
    resources := ← linksOf "resources" members
    extra := others ["@context", "metadata", "readingOrder", "resources"] members }

def read (text : String) : Result Publication :=
  match Value.read? text.toList with
  | some v => ofValue v
  | none => malformed "no JSON text"

def readBytes (bytes : Bytes) : Result Publication :=
  match utf8Text? bytes with
  | some text => read text
  | none => malformed "no UTF-8 text"

end Publication

end Bindery
