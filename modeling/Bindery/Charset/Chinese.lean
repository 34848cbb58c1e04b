import Bindery.Charset.Plane
import Bindery.Charset.Table.Big5
import Bindery.Charset.Table.Gb18030

/-! The Chinese charsets: GB 18030, whose reader also serves GBK, and Big5 with the Hong Kong
extensions. -/
namespace Bindery.Charset.Chinese

def plane : Plane := Plane.ofRows Gb18030.plane

def symbols : Plane := Plane.ofRows Gb18030.symbols

/-- The unified ideographs that the plane lacks, in order, and the cells that follow them: they
fill lead bytes 81 to A0 and then the lower trail bytes from lead byte AA on. -/
def derived : Array Char :=
  let isIdeograph (c : Char) := 0x4E00 ≤ c.toNat && c.toNat ≤ 0x9FA5
  let listed : Array Bool := (plane.extract 15 plane.size).foldl
    (fun seen row => row.foldl
      (fun seen c => if isIdeograph c then seen.setIfInBounds (c.toNat - 0x4E00) true else seen)
      seen)
    (Array.replicate (0x9FA5 - 0x4E00 + 1) false)
  let missing := (List.range listed.size).filter fun i => listed[i]? == some false
  (missing.map fun i => Char.ofNat (0x4E00 + i)).toArray ++ Gb18030.supplement.toList.toArray

/-- The character of a two-byte code. Lead bytes AA to AF and F8 to FE with upper trail bytes, and
A1 to A7 with lower ones, are user-defined areas. -/
def pair? (lead trail : UInt8) : Option Char := do
  let l ← offset? 0x81 0xFE lead
  let t ← gapped? 0x40 0x80 0xFE trail
  if 0xA1 ≤ trail then
    let column := trail.toNat - 0xA1
    if lead < 0xA1 then derived[190 * l + t]?
    else if 0xAA ≤ lead ∧ lead ≤ 0xAF then
      some (Char.ofNat (0xE000 + 94 * (lead.toNat - 0xAA) + column))
    else if 0xF8 ≤ lead then some (Char.ofNat (0xE234 + 94 * (lead.toNat - 0xF8) + column))
    else plane.cell? (lead.toNat - 0xA1) column
  else if lead < 0xA1 then derived[190 * l + t]?
  else if lead = 0xA3 ∧ trail = 0xA0 then some '\u3000'
  else if lead ≤ 0xA7 then some (Char.ofNat (0xE4C6 + 96 * (lead.toNat - 0xA1) + t))
  else if lead ≤ 0xA9 then symbols.cell? (lead.toNat - 0xA8) t
  else derived[190 * 32 + 96 * (lead.toNat - 0xAA) + t]?

def ranged? (position : Nat) : Option Char :=
  if position = 7457 then some '\ue7c7'
  else if position > 1237575 ∨ (39419 < position ∧ position < 189000) then none
  else if 189000 ≤ position then some (Char.ofNat (0x10000 + (position - 189000)))
  else
    (Gb18030.ranges.findSomeRev? fun (start, first) =>
      if start ≤ position then some (first + (position - start)) else none).map Char.ofNat

def quadruple? (a b c d : UInt8) : Option Char := do
  let a ← offset? 0x81 0xFE a
  let b ← offset? 0x30 0x39 b
  let c ← offset? 0x81 0xFE c
  let d ← offset? 0x30 0x39 d
  ranged? (((a * 10 + b) * 126 + c) * 10 + d)

/-- Reads GB 18030 that follows the reversed text `seen`. A digit as second byte makes a code of
four bytes, and byte 80 alone is the euro sign. -/
def gb18030From (seen : List Char) : Bytes → Option (List Char)
  | [] => some seen.reverse
  | b :: rest =>
    if isAscii b then gb18030From (byteChar b :: seen) rest
    else if b = 0x80 then gb18030From ('€' :: seen) rest
    else
      match rest with
      | [] => none
      | t :: rest =>
        if (offset? 0x30 0x39 t).isSome then
          match rest with
          | u :: v :: rest =>
            match quadruple? b t u v with
            | some c => gb18030From (c :: seen) rest
            | none => none
          | _ => none
        else
          match pair? b t with
          | some c => gb18030From (c :: seen) rest
          | none => none

def big5Plane : Plane := Plane.ofRows Big5.rows

/-- The characters of a Big5 pair. Four codes stand for a letter and a combining mark. -/
def big5Pair? (lead trail : UInt8) : Option (List Char) :=
  if lead = 0x88 ∧ trail = 0x62 then some ['\u00ca', '\u0304']
  else if lead = 0x88 ∧ trail = 0x64 then some ['\u00ca', '\u030c']
  else if lead = 0x88 ∧ trail = 0xA3 then some ['\u00ea', '\u0304']
  else if lead = 0x88 ∧ trail = 0xA5 then some ['\u00ea', '\u030c']
  else do
    let row ← offset? 0x87 0xFE lead
    let column ← gapped? 0x40 0xA1 0xFE trail
    let c ← big5Plane.cell? row column
    some [c]

def big5From (seen : List Char) : Bytes → Option (List Char)
  | [] => some seen.reverse
  | b :: rest =>
    if isAscii b then big5From (byteChar b :: seen) rest
    else
      match rest with
      | [] => none
      | t :: rest =>
        match big5Pair? b t with
        | some cs => big5From (cs.reverse ++ seen) rest
        | none => none

end Bindery.Charset.Chinese
