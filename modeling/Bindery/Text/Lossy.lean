import Bindery.Text.Bytes

/-! Text from octets that should be UTF-8 and need not be. Each longest start of a character that
breaks off, and each octet that starts none, becomes one U+FFFD. -/
namespace Bindery.Lossy

/-- Where a reader of octets stands. -/
inductive Place where
  | between
  | inside (value remaining low high : Nat)
deriving DecidableEq, Repr

def replacement : Char := '\ufffd'

/-- The place behind an octet between characters, and what it adds to the text. The ranges leave
out longer forms than needed, surrogates and numbers above U+10FFFF. -/
def start (b : Nat) : Place × List Char :=
  if b < 0x80 then (.between, [Char.ofNat b])
  else if 0xC2 ≤ b ∧ b ≤ 0xDF then (.inside (b - 0xC0) 1 0x80 0xBF, [])
  else if b = 0xE0 then (.inside 0 2 0xA0 0xBF, [])
  else if b = 0xED then (.inside 0xD 2 0x80 0x9F, [])
  else if 0xE1 ≤ b ∧ b ≤ 0xEF then (.inside (b - 0xE0) 2 0x80 0xBF, [])
  else if b = 0xF0 then (.inside 0 3 0x90 0xBF, [])
  else if 0xF1 ≤ b ∧ b ≤ 0xF3 then (.inside (b - 0xF0) 3 0x80 0xBF, [])
  else if b = 0xF4 then (.inside 4 3 0x80 0x8F, [])
  else (.between, [replacement])

def Place.step (place : Place) (b : Nat) : Place × List Char :=
  match place with
  | between => start b
  | inside value remaining low high =>
    if low ≤ b ∧ b ≤ high then
      let value := 64 * value + (b - 0x80)
      if remaining ≤ 1 then (.between, [Char.ofNat value])
      else (.inside value (remaining - 1) 0x80 0xBF, [])
    else
      let (place, text) := start b
      (place, replacement :: text)

def decodeFrom (place : Place) : Bytes → List Char
  | [] => if place = .between then [] else [replacement]
  | b :: rest =>
    let (place, text) := place.step b.toNat
    text ++ decodeFrom place rest

def decode (bytes : Bytes) : String := spell (decodeFrom .between bytes)

end Bindery.Lossy
