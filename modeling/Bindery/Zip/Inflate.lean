import Bindery.Zip.PrefixCode

/-! Unpacking of deflate streams: blocks of stored octets, and blocks of literals and back
references under fixed or given prefix codes. A stream must come to the end of its last block; one
that breaks off holds nothing, even where all octets have come. -/
namespace Bindery.Zip

namespace Inflate

/-- A row of values: each one has the least value and the number of extra bits added to it. -/
abbrev Steps := List (Nat × Nat)

def lengthSteps : Steps := [
  (3, 0), (4, 0), (5, 0), (6, 0), (7, 0), (8, 0), (9, 0), (10, 0), (11, 1), (13, 1), (15, 1),
  (17, 1), (19, 2), (23, 2), (27, 2), (31, 2), (35, 3), (43, 3), (51, 3), (59, 3), (67, 4),
  (83, 4), (99, 4), (115, 4), (131, 5), (163, 5), (195, 5), (227, 5), (258, 0)]

def distanceSteps : Steps := [
  (1, 0), (2, 0), (3, 0), (4, 0), (5, 1), (7, 1), (9, 2), (13, 2), (17, 3), (25, 3), (33, 4),
  (49, 4), (65, 5), (97, 5), (129, 6), (193, 6), (257, 7), (385, 7), (513, 8), (769, 8),
  (1025, 9), (1537, 9), (2049, 10), (3073, 10), (4097, 11), (6145, 11), (8193, 12), (12289, 12),
  (16385, 13), (24577, 13)]

def stepValue? (steps : Steps) (n : Nat) (s : Bits) : Option (Nat × Bits) := do
  let (least, width) ← steps[n]?
  let (extra, s) ← s.number? width
  return (least + extra, s)

structure Codes where
  literals : PrefixCode
  distances : PrefixCode

/-- The code with the given lengths. It may be incomplete only if no word is longer than one bit. -/
def codeOf? (lengths : List Nat) : Option PrefixCode :=
  (PrefixCode.ofLengths? lengths).filter fun code => code.isComplete || lengths.all (· ≤ 1)

def fixedLiterals : List Nat :=
  List.replicate 144 8 ++ List.replicate 112 9 ++ List.replicate 24 7 ++ List.replicate 8 8

def fixedCodes? : Option Codes := do
  return { literals := ← codeOf? fixedLiterals, distances := ← codeOf? (List.replicate 32 5) }

def lengthOrder : List Nat := [16, 17, 18, 0, 8, 7, 9, 6, 10, 5, 11, 4, 12, 3, 13, 2, 14, 1, 15]

def tripleBits? : List Nat → Bits → Option (List (Nat × Nat) × Bits)
  | [], s => some ([], s)
  | place :: places, s => do
    let (n, s) ← s.number? 3
    let (rest, s) ← tripleBits? places s
    return ((place, n) :: rest, s)

/-- Reads word lengths until there are `total`; `seen` holds those read, the last one first. A
length may be repeated, but not past the end. -/
def wordLengths? (code : PrefixCode) (total : Nat) :
    (fuel : Nat) → (seen : List Nat) → Bits → Option (List Nat × Bits)
  | 0, _, _ => none
  | fuel + 1, seen, s => do
    if seen.length = total then some (seen.reverse, s)
    else if total < seen.length then none
    else
      let (n, s) ← code.decode? s
      let repeated (length width least : Nat) (s : Bits) := do
        let (extra, s) ← s.number? width
        wordLengths? code total fuel (List.replicate (least + extra) length ++ seen) s
      match n with
      | 16 => do repeated (← seen.head?) 2 3 s
      | 17 => repeated 0 3 3 s
      | 18 => repeated 0 7 11 s
      | length => wordLengths? code total fuel (length :: seen) s

def givenCodes? (s : Bits) : Option (Codes × Bits) := do
  let (a, s) ← s.number? 5
  let (b, s) ← s.number? 5
  let (c, s) ← s.number? 4
  let literals := a + 257
  let distances := b + 1
  if literals > 286 ∨ distances > 30 then none
  else
    let (given, s) ← tripleBits? (lengthOrder.take (c + 4)) s
    let lengths := (List.range 19).map fun n => (given.lookup n).getD 0
    let code ← (PrefixCode.ofLengths? lengths).filter (·.isComplete)
    let (all, s) ← wordLengths? code (literals + distances) (literals + distances + 1) [] s
    let codes : Codes :=
      { literals := ← codeOf? (all.take literals), distances := ← codeOf? (all.drop literals) }
    return (codes, s)

/-- Output with `count` octets more, each a copy of the one `distance` places before it. -/
def copyBack (distance : Nat) : (count : Nat) → Array UInt8 → Array UInt8
  | 0, out => out
  | count + 1, out => copyBack distance count (out.push (out[out.size - distance]?.getD 0))

def reference? (codes : Codes) (n : Nat) (s : Bits) : Option (Nat × Nat × Bits) := do
  let (length, s) ← stepValue? lengthSteps n s
  let (m, s) ← codes.distances.decode? s
  let (distance, s) ← stepValue? distanceSteps m s
  return (length, distance, s)

abbrev Unpacked := Array UInt8 × Bits

def references? (codes : Codes) : (fuel : Nat) → Array UInt8 → Bits → Option Unpacked
  | 0, _, _ => none
  | fuel + 1, out, s =>
    match codes.literals.decode? s with
    | none => none
    | some (n, s) =>
      if n < 256 then references? codes fuel (out.push (UInt8.ofNat n)) s
      else if n = 256 then some (out, s)
      else
        match reference? codes (n - 257) s with
        | none => none
        | some (length, distance, s) =>
          if out.size < distance then none
          else references? codes fuel (copyBack distance length out) s

def storedBlock? (out : Array UInt8) : Bytes → Option Unpacked
  | a :: b :: c :: d :: rest =>
    let length := littleEndian [a, b]
    let taken := rest.take length
    if length + littleEndian [c, d] = 0xFFFF ∧ taken.length = length then
      some (out ++ taken.toArray, { rest := rest.drop length })
    else none
  | _ => none

def block? (kind : Nat) (out : Array UInt8) (s : Bits) : Option Unpacked :=
  match kind with
  | 0 => storedBlock? out s.rest
  | 1 => do references? (← fixedCodes?) (s.size + 1) out s
  | 2 => do
    let (codes, s) ← givenCodes? s
    references? codes (s.size + 1) out s
  | _ => none

/-- Reads blocks up to the last one, which is marked. -/
def blocks? : (fuel : Nat) → Array UInt8 → Bits → Option Unpacked
  | 0, _, _ => none
  | fuel + 1, out, s =>
    match s.number? 3 with
    | none => none
    | some (header, s) =>
      match block? (header / 2) out s with
      | none => none
      | some (out, s) => if header % 2 = 1 then some (out, s) else blocks? fuel out s

end Inflate

/-- The octets that a deflate stream unpacks to; none if it is damaged or breaks off. What stands
behind the last block is not looked at. -/
def inflate? (packed : Bytes) : Option Bytes :=
  let source : Bits := { rest := packed }
  (Inflate.blocks? (source.size + 1) #[] source).map (·.1.toList)

end Bindery.Zip
