import Bindery.Charset.Plane
import Bindery.Charset.Table.KsX1001

/-! EUC-KR with the unified Hangul extension: the plane of KS X 1001, and in the codes around it
the Hangul syllables that the plane lacks, in Unicode order. -/
namespace Bindery.Charset.Korean

def plane : Plane := Plane.ofRows KsX1001.rows

def derived : Array Char :=
  let isSyllable (c : Char) := 0xAC00 ≤ c.toNat && c.toNat ≤ 0xD7A3
  let listed : Array Bool := plane.foldl
    (fun seen row => row.foldl
      (fun seen c => if isSyllable c then seen.setIfInBounds (c.toNat - 0xAC00) true else seen)
      seen)
    (Array.replicate (0xD7A3 - 0xAC00 + 1) false)
  let missing := (List.range listed.size).filter fun i => listed[i]? == some false
  (missing.map fun i => Char.ofNat (0xAC00 + i)).toArray

def trail? (b : UInt8) : Option Nat :=
  match offset? 0x41 0x5A b with
  | some i => some i
  | none =>
    match offset? 0x61 0x7A b with
    | some i => some (26 + i)
    | none => (offset? 0x81 0xFE b).map (52 + ·)

/-- The character of a pair. Below A1 a lead byte has all 178 trail bytes for derived syllables,
from A1 on only the 84 that lie before those of the plane. -/
def pair? (lead trail : UInt8) : Option Char := do
  let t ← trail? trail
  if 0xA1 ≤ lead ∧ 0xA1 ≤ trail then plane.cell? (lead.toNat - 0xA1) (trail.toNat - 0xA1)
  else if 0xA1 ≤ lead then derived[178 * 32 + 84 * (lead.toNat - 0xA1) + t]?
  else do
    let l ← offset? 0x81 0xA0 lead
    derived[178 * l + t]?

def eucKrFrom (seen : List Char) : Bytes → Option (List Char)
  | [] => some seen.reverse
  | b :: rest =>
    if isAscii b then eucKrFrom (byteChar b :: seen) rest
    else
      match rest with
      | [] => none
      | t :: rest =>
        match pair? b t with
        | some c => eucKrFrom (c :: seen) rest
        | none => none

end Bindery.Charset.Korean
