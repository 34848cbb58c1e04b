import Bindery.Decimal.Shortest
import Bindery.Text.Numeral

/-! Numbers of JSON. An integer between -2^63 and 2^64 is kept exactly; every other number is held
as a double, and one beyond the doubles is refused. -/
namespace Bindery.Json

inductive Number where
  | integer (n : Int)
  | float (x : Float)
deriving Repr

namespace Number

def significandLimit : Nat := Nat.pow 2 64

/-- Digits gathered into a significand below the limit. -/
structure Gathered where
  significand : Nat := 0
  exponent : Int := 0
  full : Bool := false

/-- Gathers digits before the point. From the first digit without room on, each only raises the
exponent. -/
def Gathered.whole (g : Gathered) (digits : List Nat) : Gathered :=
  digits.foldl (fun g d =>
    let n := 10 * g.significand + d
    if g.full || significandLimit ≤ n then { g with exponent := g.exponent + 1, full := true }
    else { g with significand := n }) g

/-- Gathers digits behind the point. From the first digit without room on, all are dropped. -/
def Gathered.fraction (g : Gathered) (digits : List Nat) : Gathered :=
  digits.foldl (fun g d =>
    let n := 10 * g.significand + d
    if g.full || significandLimit ≤ n then { g with full := true }
    else { g with significand := n, exponent := g.exponent - 1 }) { g with full := false }

def powerOfTen (n : Nat) : Float := Float.ofScientific 1 false n

/-- The double that a significand and a power of ten make in one rounded step, or in two below the
least power; none if it lies beyond the doubles. -/
def scaled? (significand : Nat) (exponent : Int) : Option Float :=
  let f := Float.ofNat significand
  if 0 ≤ exponent then
    if exponent ≤ 308 then
      let product := f * powerOfTen exponent.toNat
      if product.isInf then none else some product
    else if significand = 0 then some f
    else none
  else
    let n := (-exponent).toNat
    if n ≤ 308 then some (f / powerOfTen n)
    else if n ≤ 616 then some (f / powerOfTen 308 / powerOfTen (n - 308))
    else some 0.0

def exponentLimit : Nat := Nat.pow 2 31

/-- The double of gathered digits with an exponent part. An exponent too large to be read makes
zero, unless it is positive and the digits are not all zero. -/
def Gathered.float? (g : Gathered) (down : Bool) (exponent : Nat) : Option Float :=
  if exponentLimit ≤ exponent then
    if g.significand ≠ 0 ∧ ! down then none else some 0.0
  else scaled? g.significand (if down then g.exponent - exponent else g.exponent + exponent)

def takeDigits (s : List Char) : List Nat × List Char :=
  let isDigit := fun c => (digitValue? c).isSome
  ((s.takeWhile isDigit).filterMap digitValue?, s.dropWhile isDigit)

def ofDigits (digits : List Nat) : Nat := digits.foldl (fun n d => 10 * n + d) 0

def exponent? (s : List Char) : Option (Bool × Nat) :=
  let (down, s) := match s with
    | '-' :: rest => (true, rest)
    | '+' :: rest => (false, rest)
    | _ => (false, s)
  match takeDigits s with
  | ([], _) => none
  | (digits, []) => some (down, ofDigits digits)
  | _ => none

def signed (negative : Bool) (x : Float) : Number := float (if negative then -x else x)

/-- An integer literal. Zero with a minus sign and integers out of range become doubles. -/
def integral? (negative : Bool) (digits : List Nat) : Option Number :=
  let n := ofDigits digits
  if n < significandLimit then
    if negative then
      if n = 0 ∨ Nat.pow 2 63 < n then some (signed true (Float.ofNat n)) else some (integer (-n))
    else some (integer n)
  else ((({} : Gathered).whole digits).float? false 0).map (signed negative)

def unsigned? (negative : Bool) (s : List Char) : Option Number :=
  let (digits, rest) := takeDigits s
  let g := ({} : Gathered).whole digits
  if digits.isEmpty ∨ (digits.head? = some 0 ∧ digits.length ≠ 1) then none
  else
    match rest with
    | [] => integral? negative digits
    | '.' :: rest =>
      let (places, rest) := takeDigits rest
      let g := g.fraction places
      if places.isEmpty then none
      else
        match rest with
        | [] => (g.float? false 0).map (signed negative)
        | c :: rest =>
          if c = 'e' ∨ c = 'E' then do
            let (down, e) ← exponent? rest
            (g.float? down e).map (signed negative)
          else none
    | c :: rest =>
      if c = 'e' ∨ c = 'E' then do
        let (down, e) ← exponent? rest
        (g.float? down e).map (signed negative)
      else none

def read? (s : List Char) : Option Number :=
  match s with
  | '-' :: rest => unsigned? true rest
  | _ => unsigned? false s

/-- The text of shortest digits. The point stands among the digits or beside them while that takes
at most sixteen digits before it or four zeros behind it; else an exponent follows. -/
def positional (s : Decimal.Scaled) : String :=
  let digits := Nat.toDigits 10 s.digits
  let zeros (n : Int) := List.replicate n.toNat '0'
  let point : Int := digits.length + s.exponent
  String.ofList <|
    if 0 ≤ s.exponent ∧ point ≤ 16 then digits ++ zeros s.exponent ++ ".0".toList
    else if 0 < point ∧ point ≤ 16 then
      digits.take point.toNat ++ '.' :: digits.drop point.toNat
    else if -5 < point ∧ point ≤ 0 then "0.".toList ++ zeros (-point) ++ digits
    else
      let mantissa := match digits with
        | [d] => [d]
        | d :: rest => d :: '.' :: rest
        | [] => []
      let e := point - 1
      mantissa ++ 'e' :: (if e < 0 then '-' else '+') :: Nat.toDigits 10 e.natAbs

def floatText (x : Float) : String :=
  let bits := x.toBits.toNat
  let size := bits % Nat.pow 2 63
  let sign := if Nat.pow 2 63 ≤ bits then "-" else ""
  sign ++ (if size = 0 then "0.0" else positional (Decimal.Interval.ofBits size).shortest)

def render : Number → String
  | integer n => toString n
  | float x => floatText x

end Number
end Bindery.Json
