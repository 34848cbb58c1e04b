import Bindery.Charset.Plane
import Bindery.Charset.Table.JisX0208
import Bindery.Charset.Table.JisX0212

/-! The Japanese charsets: Shift_JIS and EUC-JP, whose bytes give row and column of a plane, and
ISO-2022-JP, which switches between planes by escape sequences. -/
namespace Bindery.Charset.Japanese

def plane : Plane := Plane.ofRows JisX0208.rows

def vendorPlane : Plane := Plane.ofRows JisX0208.vendorRows

def supplementaryPlane : Plane := Plane.ofRows JisX0212.rows

def halfWidth? (b : UInt8) : Option Char :=
  (offset? 0xA1 0xDF b).map fun i => Char.ofNat (0xFF61 + i)

def shiftedLead? (b : UInt8) : Option Nat :=
  match offset? 0x81 0x9F b with
  | some i => some i
  | none => (offset? 0xE0 0xFC b).map (0x1F + ·)

/-- The character of a Shift_JIS pair. Each lead byte covers two rows; behind the 94 rows of the
plane lie 20 rows of user-defined characters and then the vendor rows. -/
def shiftedPair? (lead trail : UInt8) : Option Char := do
  let l ← shiftedLead? lead
  let t ← gapped? 0x40 0x80 0xFC trail
  let row := 2 * l + t / 94
  let column := t % 94
  if row < 94 then plane.cell? row column
  else if row < 114 then some (Char.ofNat (0xE000 + 94 * (row - 94) + column))
  else vendorPlane.cell? (row - 114) column

def shiftJisFrom (seen : List Char) : Bytes → Option (List Char)
  | [] => some seen.reverse
  | b :: rest =>
    if b.toNat ≤ 0x80 then shiftJisFrom (byteChar b :: seen) rest
    else match halfWidth? b with
      | some c => shiftJisFrom (c :: seen) rest
      | none =>
        match rest with
        | [] => none
        | t :: rest =>
          match shiftedPair? b t with
          | some c => shiftJisFrom (c :: seen) rest
          | none => none

def pair? (plane : Plane) (lead trail : UInt8) : Option Char := do
  let row ← offset? 0xA1 0xFE lead
  let column ← offset? 0xA1 0xFE trail
  plane.cell? row column

/-- Reads EUC-JP that follows the reversed text `seen`. Byte 8E announces half-width katakana and
8F the supplementary plane. -/
def eucJpFrom (seen : List Char) : Bytes → Option (List Char)
  | [] => some seen.reverse
  | [b] => if isAscii b then some (byteChar b :: seen).reverse else none
  | b :: t :: rest =>
    if isAscii b then eucJpFrom (byteChar b :: seen) (t :: rest)
    else if b = 0x8E then
      match halfWidth? t with
      | some c => eucJpFrom (c :: seen) rest
      | none => none
    else if b = 0x8F then
      match rest with
      | [] => none
      | u :: rest =>
        match pair? supplementaryPlane t u with
        | some c => eucJpFrom (c :: seen) rest
        | none => none
    else
      match pair? plane b t with
      | some c => eucJpFrom (c :: seen) rest
      | none => none

/-- The sets that an escape sequence of ISO-2022-JP selects. -/
inductive Selected where
  | ascii
  | roman
  | katakana
  | kanji
deriving DecidableEq, Repr

def selected? (a b : UInt8) : Option Selected :=
  if a = 0x28 ∧ b = 0x42 then some .ascii
  else if a = 0x28 ∧ b = 0x4A then some .roman
  else if a = 0x28 ∧ b = 0x49 then some .katakana
  else if a = 0x24 ∧ (b = 0x40 ∨ b = 0x42) then some .kanji
  else none

/-- A character of a one-byte set. The shift controls are in none. -/
def Selected.single? (set : Selected) (b : UInt8) : Option Char :=
  match set with
  | ascii => if isAscii b && b != 0x0E && b != 0x0F then some (byteChar b) else none
  | roman =>
    if b = 0x5C then some '\u00a5'
    else if b = 0x7E then some '\u203e'
    else if isAscii b && b != 0x0E && b != 0x0F then some (byteChar b)
    else none
  | katakana => (offset? 0x21 0x5F b).map fun i => Char.ofNat (0xFF61 + i)
  | kanji => none

/-- Reads ISO-2022-JP that follows the reversed text `seen`. `fresh` holds right after an escape
sequence: a second one in a row is refused. -/
def iso2022JpFrom (set : Selected) (fresh : Bool) (seen : List Char) : Bytes → Option (List Char)
  | [] => some seen.reverse
  | 0x1B :: a :: b :: rest =>
    match selected? a b with
    | some set => if fresh then none else iso2022JpFrom set true seen rest
    | none => none
  | b :: rest =>
    if b = 0x1B then none
    else if set = .kanji then
      match rest with
      | [] => none
      | t :: rest =>
        match offset? 0x21 0x7E b, offset? 0x21 0x7E t with
        | some row, some column =>
          match plane.cell? row column with
          | some c => iso2022JpFrom set false (c :: seen) rest
          | none => none
        | _, _ => none
    else
      match set.single? b with
      | some c => iso2022JpFrom set false (c :: seen) rest
      | none => none

end Bindery.Charset.Japanese
