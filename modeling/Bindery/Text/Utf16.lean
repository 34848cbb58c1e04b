import Bindery.Text.Bytes

/-! UTF-16 in either byte order, read strictly: an odd last byte and a surrogate out of place are
refused. -/
namespace Bindery.Utf16

/-- Which byte of a unit comes first. -/
inductive Order where
  | little
  | big
deriving DecidableEq, Repr

def Order.unit (order : Order) (first second : UInt8) : Nat :=
  match order with
  | little => first.toNat + 256 * second.toNat
  | big => 256 * first.toNat + second.toNat

def Order.bytes (order : Order) (unit : Nat) : Bytes :=
  match order with
  | little => [UInt8.ofNat (unit % 256), UInt8.ofNat (unit / 256)]
  | big => [UInt8.ofNat (unit / 256), UInt8.ofNat (unit % 256)]

def isHigh (unit : Nat) : Bool := 0xD800 ≤ unit && unit < 0xDC00

def isLow (unit : Nat) : Bool := 0xDC00 ≤ unit && unit < 0xE000

def join (high low : Nat) : Char :=
  Char.ofNat (0x10000 + 0x400 * (high - 0xD800) + (low - 0xDC00))

/-- Reads units that follow the reversed text `seen`; after a high surrogate `pending` holds it. -/
def decodeFrom (order : Order) (seen : List Char) (pending : Option Nat) :
    Bytes → Option (List Char)
  | [] => if pending.isNone then some seen.reverse else none
  | [_] => none
  | a :: b :: rest =>
    let unit := order.unit a b
    match pending with
    | some high =>
      if isLow unit then decodeFrom order (join high unit :: seen) none rest else none
    | none =>
      if isHigh unit then decodeFrom order seen (some unit) rest
      else if isLow unit then none
      else decodeFrom order (Char.ofNat unit :: seen) none rest

def decode? (order : Order) (bytes : Bytes) : Option (List Char) :=
  decodeFrom order [] none bytes

def units (c : Char) : List Nat :=
  let n := c.toNat
  if n < 0x10000 then [n]
  else [0xD800 + (n - 0x10000) / 0x400, 0xDC00 + (n - 0x10000) % 0x400]

def encode (order : Order) (s : List Char) : Bytes :=
  s.flatMap fun c => (units c).flatMap order.bytes

end Bindery.Utf16
