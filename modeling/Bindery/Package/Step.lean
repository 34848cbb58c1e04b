import Bindery.Package.Resource

/-! Steps of a packaging run. A step that fails does not end the run: the state behind it takes the
next one. -/
namespace Bindery

open Zip (Method)

/-- What is to be written as one entry. -/
structure EntryPlan where
  path : String
  type : String
  method : Method
  plaintextDeflated : Bool := false
  chunks : List Bytes
  flushes : Bool := false
  finishes : Bool := true

inductive Step where
  | file (plan : EntryPlan)
  | mark (m : Mark)
  | copy (resource : Resource)
  | encrypt (cipher : Cipher) (resource : Resource)

variable {σ : Type} [Sink σ]

/-- Writes an entry. If that fails after the entry was opened, it is abandoned. -/
def EntryPlan.run (plan : EntryPlan) : Action σ Draft := do
  let draft ← Sink.newFile plan.path plan.type plan.method
  let draft := { draft with plaintextDeflated := plan.plaintextDeflated }
  let draft ← Sink.guarded draft do
    let draft ← plan.chunks.foldlM Sink.append draft
    if plan.flushes then Sink.flush
    return draft
  if plan.finishes then Sink.commit draft else modify (Sink.abandon draft)
  return draft

namespace Step

/-- The step of an encryption pass for a resource: one that is encrypted already or may not be
encrypted is copied, and any other is encrypted. -/
def pass (cipher : Cipher) (r : Resource) : Step :=
  if r.isEncrypted || !r.canEncrypt then copy r else encrypt cipher r

def run : Step → Action σ Unit
  | file plan => do
    let _ ← plan.run
  | mark m => Sink.mark m
  | copy resource => resource.copyTo
  | encrypt cipher resource => resource.encryptTo cipher

def runAll : List Step → σ → List (Result Unit) × σ
  | [], s => ([], s)
  | step :: steps, s =>
    let (outcome, s) := step.run.perform s
    let (outcomes, s) := runAll steps s
    (outcome :: outcomes, s)

end Step
end Bindery
