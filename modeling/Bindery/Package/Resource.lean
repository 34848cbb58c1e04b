import Bindery.Package.Sink
import Bindery.Package.Source

/-! Resources: the views of source entries that a packaging pass works on. Each one can be copied
as it is or written in encrypted form. -/
namespace Bindery

open Zip (Method)

structure Resource where
  path : String
  type : String
  size : Nat
  isEncrypted : Bool
  canEncrypt : Bool
  compressFirst : Bool
  method : Method
  source : Result Source

namespace Resource

variable {σ : Type} [Sink σ]

def transfer (draft : Draft) (source : Source) : Action σ (Draft × Source) :=
  match _found : Source.read Source.transferUnit source with
  | .error e _ => throw e
  | .ok [] later => pure (draft, later)
  | .ok (b :: part) later => do transfer (← Sink.append draft (b :: part)) later
termination_by source.rest.length
decreasing_by exact Source.length_rest_of_read ‹_›

/-- Copies a resource under its path, type and method. An entry whose content did not arrive is
abandoned. One whose content arrived is committed even if the source was of another size than
declared; that failure is reported before one of the commit. -/
def copyTo (r : Resource) : Action σ Unit := do
  let draft ← Sink.newFile r.path r.type r.method
  let (draft, source) ← Sink.guarded draft do
    transfer draft (← Action.ofResult r.source)
  let committed ← (Sink.commit draft).attempt
  Action.ofResult source.close
  Action.ofResult committed

def content (r : Resource) : Result Bytes := do
  match Source.readAll.perform (← r.source) with
  | (.error e, _) => .error e
  | (.ok bytes, source) => do
    source.close
    return bytes

end Resource

/-- How a pass encrypts. -/
structure Cipher where
  encrypt : Bytes → Bytes
  profile : String
  algorithm : String

namespace Resource

variable {σ : Type} [Sink σ]

def encryptTo (cipher : Cipher) (r : Resource) : Action σ Unit := do
  let plain ← Action.ofResult r.content
  let draft ← Sink.newFile r.path r.type .stored
  let draft := { draft with plaintextDeflated := r.compressFirst }
  let draft ← Sink.guarded draft (Sink.append draft (cipher.encrypt plain))
  Sink.commit draft
  Sink.mark {
    path := r.path
    size := UInt64.ofNat r.size
    profile := cipher.profile
    algorithm := cipher.algorithm }

end Resource
end Bindery
