import Bindery.Device
import Bindery.Encryption.Printer
import Bindery.Encryption.Reader

/-! Encryption manifests on streams. -/
namespace Bindery.Encryption.Manifest

/-- Writes a manifest to a device: its text in one write, and then a flush. The bytes are those
that the device has taken. -/
def writeTo (manifest : Manifest) (device : Device) : Result Bytes :=
  let bytes := utf8Bytes manifest.render
  match (device.write bytes).2 with
  | .error fault => .error (.stream fault)
  | .ok () =>
    match device.flush with
    | .error fault => .error (.stream fault)
    | .ok () => .ok bytes

def readFrom (bytes : Bytes) (fault : Option StreamFault) : Result Manifest :=
  match fault with
  | some fault => .error (.stream fault)
  | none => readDocument bytes

end Bindery.Encryption.Manifest
