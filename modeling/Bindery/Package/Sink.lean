import Bindery.Action
import Bindery.Zip.Member

/-! Destinations of entries. An entry is a draft until it is committed; a draft that is given up is
abandoned, and its destination takes nothing more. -/
namespace Bindery

open Zip (Method)

/-- An entry that is open at a destination and not yet part of its manifest. -/
structure Draft where
  path : String
  type : String
  method : Method
  plaintextDeflated : Bool := false
  written : Nat := 0
deriving DecidableEq, Repr

/-- What is said of a committed entry that holds encrypted content. -/
structure Mark where
  path : String
  size : UInt64
  profile : String
  algorithm : String
deriving DecidableEq, Repr

class Sink (σ : Type) where
  newFile : String → String → Method → Action σ Draft
  write : Bytes → Action σ Unit
  flush : Action σ Unit
  commit : Draft → Action σ Unit
  abandon : Draft → σ → σ
  mark : Mark → Action σ Unit

namespace Sink

variable {σ : Type} [Sink σ]

def guarded {α : Type} (draft : Draft) (act : Action σ α) : Action σ α :=
  act.onFault (abandon draft)

def append (draft : Draft) (bytes : Bytes) : Action σ Draft := do
  write bytes
  return { draft with written := draft.written + bytes.length }

end Sink
end Bindery
