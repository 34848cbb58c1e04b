import Bindery.Zip.Bits

/-! Prefix codes given by code lengths. Among all codes with these lengths the canonical one is
meant: shorter words come first, and words of one length stand in the order of their symbols. -/
namespace Bindery.Zip

/-- A prefix code as the tree of its words. -/
inductive PrefixCode where
  | symbol (n : Nat)
  | branch (zero one : PrefixCode)
  | unused
deriving Repr

namespace PrefixCode

/-- Joins neighbours two by two; one that is left alone gets an unused neighbour. -/
def pairs : List PrefixCode → List PrefixCode
  | a :: b :: rest => branch a b :: pairs rest
  | [a] => [branch a unused]
  | [] => []

def symbolsOf (lengths : List Nat) (length : Nat) : List PrefixCode :=
  (lengths.zipIdx.filter (·.1 = length)).map fun (_, n) => symbol n

/-- The subtrees that start at a depth, from left to right, where `below` is the number of depths
under it. Symbols that end here come before all longer words. -/
def nodes (lengths : List Nat) (depth : Nat) : (below : Nat) → List PrefixCode
  | 0 => symbolsOf lengths depth
  | below + 1 => symbolsOf lengths depth ++ pairs (nodes lengths (depth + 1) below)

def maxLength : Nat := 15

/-- The code with these word lengths, one for each symbol, where zero stands for no word. None if
the lengths ask for more words than there are. -/
def ofLengths? (lengths : List Nat) : Option PrefixCode :=
  match pairs (nodes lengths 1 (maxLength - 1)) with
  | [] => some unused
  | [code] => some code
  | _ => none

def isComplete : PrefixCode → Bool
  | symbol _ => true
  | branch zero one => zero.isComplete && one.isComplete
  | unused => false

def decode? : PrefixCode → Bits → Option (Nat × Bits)
  | symbol n, s => some (n, s)
  | unused, _ => none
  | branch zero one, s =>
    match s.next? with
    | none => none
    | some (true, s) => one.decode? s
    | some (false, s) => zero.decode? s

end PrefixCode
end Bindery.Zip
