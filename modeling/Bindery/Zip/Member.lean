import Bindery.Error
import Bindery.Zip.Checksum
import Bindery.Zip.Deflate

/-! Members of archives: a name, and content in packed form. The declared sizes are what the header
says; it is the checksum that content is held to. -/
namespace Bindery.Zip

/-- How this library stores content. -/
inductive Method where
  | stored
  | deflated
deriving DecidableEq, Repr

def Method.pack : Method → Bytes → Bytes
  | stored, content => content
  | deflated, content => deflate content

/-- How the content of a member is packed. -/
inductive Packing where
  | known (method : Method)
  | foreign (code : Nat)
deriving DecidableEq, Repr

def Packing.ofCode (code : Nat) : Packing :=
  if code = 0 then known .stored else if code = 8 then known .deflated else foreign code

def Packing.code : Packing → Nat
  | known .stored => 0
  | known .deflated => 8
  | foreign code => code

def Packing.method : Packing → Method
  | known method => method
  | foreign _ => .deflated

structure Member where
  name : String
  packing : Packing
  checksum : UInt32
  size : Nat
  packedSize : Nat
  /-- The packed form. It is shorter than declared if its file breaks off. -/
  packed : Bytes
  encrypted : Bool := false
deriving DecidableEq, Repr

/-- The failure of a file that is no archive, or of a member that cannot be read. -/
def unsound {α : Type} (reason : String) : Result α := .error (.format (.archive reason))

namespace Member

def ofContent (name : String) (method : Method) (content : Bytes) : Member :=
  let packed := method.pack content
  { name
    packing := .known method
    checksum := Zip.checksum content
    size := content.length
    packedSize := packed.length
    packed }

def isDirectory (m : Member) : Bool :=
  match m.name.toList.getLast? with
  | some c => c == '/' || c == '\\'
  | none => false

def unpacked (m : Member) : Result Bytes :=
  if m.encrypted then unsound "a member is encrypted"
  else
    match m.packing with
    | .foreign _ => unsound "a member is packed by an unknown method"
    | .known .stored => .ok m.packed
    | .known .deflated =>
      match inflate? m.packed with
      | some content => .ok content
      | none => .error (.stream .corrupt)

/-- The content of a member, whose checksum must be the declared one. -/
def content (m : Member) : Result Bytes := do
  let content ← m.unpacked
  if Zip.checksum content = m.checksum then .ok content else .error (.stream .checksum)

end Member
end Bindery.Zip
