import Bindery.Text.Bytes

/-! Bit sources: octets taken apart from their least significant bit on. A source can also be read
by whole octets, after the rest of the octet that was begun is dropped. -/
namespace Bindery.Zip

/-- Bits still to be read: those left of the octet that was begun, and the octets behind it. -/
structure Bits where
  pending : List Bool := []
  rest : Bytes
deriving DecidableEq, Repr

def bitsOf (b : UInt8) : List Bool := (List.range 8).map b.toNat.testBit

namespace Bits

def size (s : Bits) : Nat := s.pending.length + 8 * s.rest.length

def next? (s : Bits) : Option (Bool × Bits) :=
  match s.pending, s.rest with
  | bit :: pending, rest => some (bit, { pending, rest })
  | [], b :: rest =>
    match bitsOf b with
    | bit :: pending => some (bit, { pending, rest })
    | [] => none
  | [], [] => none

/-- The number that the next `width` bits spell, the least significant one first. -/
def number? : (width : Nat) → Bits → Option (Nat × Bits)
  | 0, s => some (0, s)
  | width + 1, s =>
    match s.next? with
    | none => none
    | some (bit, s) =>
      match number? width s with
      | none => none
      | some (n, s) => some (bit.toNat + 2 * n, s)

end Bits
end Bindery.Zip
