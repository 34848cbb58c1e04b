import Bindery.Error

/-! Actions: steps on a state that may fail. What a step did before it failed stays done. -/
namespace Bindery

abbrev Action (σ α : Type) := EStateM Error σ α

namespace Action

variable {σ τ α : Type}

def ofResult : Result α → Action σ α
  | .ok a => pure a
  | .error e => throw e

def perform (act : Action σ α) (s : σ) : Result α × σ :=
  match act.run s with
  | .ok a s => (.ok a, s)
  | .error e s => (.error e, s)

def attempt (act : Action σ α) : Action σ (Result α) := fun s =>
  match act s with
  | .ok a s => .ok (.ok a) s
  | .error e s => .ok (.error e) s

/-- The step that changes the state once more if `act` fails. -/
def onFault (act : Action σ α) (change : σ → σ) : Action σ α := fun s =>
  match act s with
  | .ok a s => .ok a s
  | .error e s => .error e (change s)

def within (part : σ → τ) (replace : σ → τ → σ) (act : Action τ α) : Action σ α := fun s =>
  match act (part s) with
  | .ok a t => .ok a (replace s t)
  | .error e t => .error e (replace s t)

end Action
end Bindery
