import Bindery.Action
import Bindery.Text.Bytes

/-! Source streams. A source counts what it yields, and closing it compares the count with the
declared size, though only if a read has found the end of the stream. -/
namespace Bindery

structure Source where
  rest : Bytes
  fault : Option StreamFault := none
  declared : Nat
  yielded : Nat := 0
  ended : Bool := false
deriving DecidableEq, Repr

namespace Source

/-- Reads at most `limit` octets. Nothing for a limit that is not zero means the end. -/
def read (limit : Nat) : Action Source Bytes := fun source =>
  if limit = 0 then .ok [] source
  else
    match source.rest, source.fault with
    | [], some fault => .error (.stream fault) source
    | [], none => .ok [] { source with ended := true }
    | b :: rest, _ =>
      let part := (b :: rest).take limit
      .ok part { source with
        rest := (b :: rest).drop limit
        yielded := source.yielded + part.length }

def close (source : Source) : Result Unit :=
  if source.ended ∧ source.yielded ≠ source.declared then
    .error (.stream (.wrongLength source.yielded source.declared))
  else .ok ()

theorem length_rest_of_read {limit : Nat} {source later : Source} {b : UInt8} {part : Bytes}
    (h : read limit source = .ok (b :: part) later) : later.rest.length < source.rest.length := by
  unfold read at h
  split at h
  · simp at h
  · rename_i hl
    split at h
    · simp at h
    · simp at h
    · rename_i b' rest hr
      simp only [EStateM.Result.ok.injEq] at h
      rw [hr, ← h.2]
      simp only [List.length_drop, List.length_cons]
      omega

def transferUnit : Nat := 8192

def readAll : Action Source Bytes := fun source =>
  match _found : read transferUnit source with
  | .error e later => .error e later
  | .ok [] later => .ok [] later
  | .ok (b :: part) later =>
    match readAll later with
    | .error e final => .error e final
    | .ok more final => .ok (b :: part ++ more) final
termination_by source => source.rest.length
decreasing_by exact length_rest_of_read ‹_›

end Source
end Bindery
