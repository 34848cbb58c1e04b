import Bindery.Action
import Bindery.Device
import Bindery.Zip.Directory

/-! Archives under construction on a device. Entries are written one after the other, and the
directory comes last. The device may refuse a signature, a name, or octets that are stored as they
are; packed octets and numbers in headers hold nothing that it looks for.

The limits of the format are not kept here. A writer of archives without wide headers refuses names
of 64 KiB and more and contents of 4 GiB and more, and this one takes both. A success there is one
here, so that what is proved of successes holds of both; that something succeeds is proved of such a
writer only below these limits. -/
namespace Bindery.Zip

/-- A place in the directory to be written. -/
inductive Slot where
  | member (m : Member)
  /-- An entry whose header broke off at its name. The name stands in the directory all the same,
  where the device refuses it again. -/
  | headless (name : String)
deriving DecidableEq, Repr

def Slot.name : Slot → String
  | member m => m.name
  | headless name => name

/-- The entry that is being written. -/
structure Unsealed where
  name : String
  method : Method
  content : Bytes := []
deriving DecidableEq, Repr

structure Output where
  device : Device := {}
  slots : List Slot := []
  current : Option Unsealed := none
deriving DecidableEq, Repr

namespace Output

/-- The output with the entry that is being written, if there is one, brought to its end. -/
def settle (o : Output) : Output :=
  match o.current with
  | none => o
  | some e =>
    { o with slots := o.slots ++ [.member (.ofContent e.name e.method e.content)], current := none }

def emit (bytes : Bytes) : Action Output Unit := fun o =>
  match o.device.write bytes with
  | (device, .ok ()) => .ok () { o with device }
  | (device, .error fault) => .error (.stream fault) { o with device }

def push (slot : Slot) (o : Output) : Output := { o with slots := o.slots ++ [slot] }

/-- Writes the local header of a new entry. No name may occur twice. If the signature is refused,
nothing of the entry is left. -/
def header (name : String) : Action Output Unit := do
  modify settle
  if (← get).slots.any (·.name = name) then Action.ofResult (unsound "a name occurs twice")
  emit localSignature
  (emit (utf8Bytes name)).onFault (push (.headless name))

/-- Begins an entry. Its name may be of any length, beyond the 64 KiB that headers have room for. -/
def start (name : String) (method : Method) : Action Output Unit := do
  header name
  modify fun o => { o with current := some { name, method } }

/-- Adds octets to the entry that is being written. It may grow to 4 GiB and beyond, which headers
without wide numbers have no room for. -/
def write (bytes : Bytes) : Action Output Unit := do
  match (← get).current with
  | none => throw (.stream (.device "no entry is open"))
  | some e =>
    if e.method = .stored ∧ bytes ≠ [] then emit bytes
    modify fun o => { o with current := some { e with content := e.content ++ bytes } }

def copyUnit : Nat := 8192

def copyMember (m : Member) : Action Output Unit := do
  header m.name
  if m.packing = .known .stored then (pieces copyUnit m.packed).forM emit
  modify (push (.member { m with encrypted := false }))

def flush : Action Output Unit := do
  Action.ofResult ((← get).device.flush.mapError .stream)

def centralHeader (slot : Slot) : Action Output Unit := do
  emit centralSignature
  emit (utf8Bytes slot.name)

def finish : Action Output Unit := do
  modify settle
  (← get).slots.forM centralHeader
  emit endSignature

/-- The members of an output, if every entry has a whole header. -/
def members? (o : Output) : Option Archive :=
  o.slots.mapM fun
    | .member m => some m
    | .headless _ => none

end Output
end Bindery.Zip
