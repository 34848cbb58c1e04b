import Bindery.Text.Bytes

/-! Decimal numerals: an optional plus sign and at least one digit, read exactly or refused. -/
namespace Bindery

def digitValue? (c : Char) : Option Nat :=
  if '0' ≤ c ∧ c ≤ '9' then some (c.toNat - '0'.toNat) else none

/-- The number that digits spell when they follow digits worth `high`; none if some character is
no digit. -/
def digitsFrom? (high : Nat) : List Char → Option Nat
  | [] => some high
  | c :: rest => (digitValue? c).bind fun d => digitsFrom? (10 * high + d) rest

/-- The number below `limit` that a numeral denotes. Leading zeros are allowed. -/
def numeral? (limit : Nat) (s : List Char) : Option Nat :=
  let digits := match s with
    | '+' :: rest => rest
    | _ => s
  if digits.isEmpty then none
  else (digitsFrom? 0 digits).filter (· < limit)

end Bindery
