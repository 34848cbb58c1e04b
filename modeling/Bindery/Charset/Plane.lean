import Bindery.Text.Bytes

/-! Code planes: the cells of a multi-byte charset, addressed by row and column. -/
namespace Bindery.Charset

/-- Rows of cells; U+FFFD marks a cell without a character. -/
abbrev Plane := Array (Array Char)

def Plane.ofRows (rows : Array String) : Plane := rows.map fun row => row.toList.toArray

def Plane.cell? (plane : Plane) (row column : Nat) : Option Char :=
  match plane[row]?.bind (·[column]?) with
  | some c => if c = '\ufffd' then none else some c
  | none => none

def offset? (low high : Nat) (b : UInt8) : Option Nat :=
  if low ≤ b.toNat ∧ b.toNat ≤ high then some (b.toNat - low) else none

/-- The position of a trail byte whose range has a gap: `low` to 7E, then `resume` to `high`. -/
def gapped? (low resume high : Nat) (b : UInt8) : Option Nat :=
  if low ≤ b.toNat ∧ b.toNat ≤ 0x7E then some (b.toNat - low)
  else if resume ≤ b.toNat ∧ b.toNat ≤ high then some (0x7F - low + (b.toNat - resume))
  else none

def byteChar (b : UInt8) : Char := Char.ofNat b.toNat

def isAscii (b : UInt8) : Bool := b.toNat < 0x80

end Bindery.Charset
