import Bindery.Error
import Bindery.Text.Bytes

/-! Destination devices, which may refuse what is written to them. -/
namespace Bindery

/-- A device: what it refuses, and how often it has refused. -/
structure Device where
  refused : Option Bytes := none
  refusesFlush : Bool := false
  refusals : Nat := 0
deriving DecidableEq, Repr

namespace Device

def refuses (device : Device) (bytes : Bytes) : Bool :=
  match device.refused with
  | some needle => occursIn needle bytes
  | none => false

def write (device : Device) (bytes : Bytes) : Device × Except StreamFault Unit :=
  if device.refuses bytes then
    ({ device with refusals := device.refusals + 1 }, .error (.writeRefused (device.refusals + 1)))
  else (device, .ok ())

def flush (device : Device) : Except StreamFault Unit :=
  if device.refusesFlush then .error .flushRefused else .ok ()

end Device
end Bindery
