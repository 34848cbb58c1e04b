/-! Shortest decimals: the fewest digits that read back as a positive binary fraction. The fraction
is `m * 2 ^ q`; the reals that round to it form an interval around it, whose ends belong to it
exactly when `m` is even. -/
namespace Bindery.Decimal

/-- A decimal: `digits * 10 ^ exponent`. -/
structure Scaled where
  digits : Nat
  exponent : Int
deriving DecidableEq, Repr

/-- A positive rational as numerator and denominator. -/
structure Ratio where
  num : Nat
  den : Nat
deriving DecidableEq, Repr

def Ratio.dyadic (n : Nat) (q : Int) : Ratio := ⟨n * Nat.pow 2 q.toNat, Nat.pow 2 (-q).toNat⟩

def Ratio.decimal (n : Nat) (e : Int) : Ratio := ⟨n * Nat.pow 10 e.toNat, Nat.pow 10 (-e).toNat⟩

def Ratio.le (a b : Ratio) : Bool := a.num * b.den ≤ b.num * a.den

def Ratio.lt (a b : Ratio) : Bool := a.num * b.den < b.num * a.den

/-- The greatest `n` with `n * 10 ^ e` at most the ratio. -/
def Ratio.floorAt (r : Ratio) (e : Int) : Nat :=
  r.num * Nat.pow 10 (-e).toNat / (r.den * Nat.pow 10 e.toNat)

def Ratio.gap (a b : Ratio) : Nat :=
  let x := a.num * b.den
  let y := b.num * a.den
  (x - y) + (y - x)

def digitCount (n : Nat) : Nat := (Nat.toDigits 10 n).length

/-- The exponent of the leading digit of a positive ratio: that of its whole part, or how many
places behind the point the first digit stands. -/
def Ratio.leading (r : Ratio) : Int :=
  let whole := r.num / r.den
  if 0 < whole then digitCount whole - 1
  else
    let places := (List.range 400).find? fun t => r.den ≤ r.num * Nat.pow 10 t
    Int.negOfNat (places.getD 400)

structure Interval where
  low : Ratio
  value : Ratio
  high : Ratio
  closed : Bool
deriving DecidableEq, Repr

def Interval.contains (i : Interval) (r : Ratio) : Bool :=
  if i.closed then i.low.le r && r.le i.high else i.low.lt r && r.lt i.high

/-- The decimal nearest to the value on the grid of the given exponent, if it lies in the interval.
Only the two neighbours of the value on the grid can be nearest; of two equally near ones the even
one is taken. -/
def Interval.onGrid? (i : Interval) (e : Int) : Option Scaled :=
  let below := i.value.floorAt e
  let above := below + 1
  let lower := Ratio.decimal below e
  let upper := Ratio.decimal above e
  match 0 < below && i.contains lower, i.contains upper with
  | false, false => none
  | true, false => some ⟨below, e⟩
  | false, true => some ⟨above, e⟩
  | true, true =>
    let x := i.value.gap lower
    let y := i.value.gap upper
    if x < y ∨ (x = y ∧ below % 2 = 0) then some ⟨below, e⟩ else some ⟨above, e⟩

def Scaled.strip (fuel : Nat) (s : Scaled) : Scaled :=
  match fuel with
  | 0 => s
  | fuel + 1 =>
    if 0 < s.digits ∧ s.digits % 10 = 0 then strip fuel ⟨s.digits / 10, s.exponent + 1⟩ else s

/-- The decimal of fewest digits in the interval, nearest to the value among those. Seventeen
digits always suffice for an interval of a double. -/
def Interval.shortest (i : Interval) : Scaled :=
  let first := i.value.leading
  let grids := (List.range 17).map fun n => first - Int.ofNat n
  ((grids.findSome? i.onGrid?).getD ⟨0, 0⟩).strip 20

/-- The interval of the reals that round to a positive finite double, from its 64 bits. Below a
power of two the neighbour is half as far. -/
def Interval.ofBits (bits : Nat) : Interval :=
  let fraction := bits % Nat.pow 2 52
  let field := bits / Nat.pow 2 52 % Nat.pow 2 11
  let m := if field = 0 then fraction else Nat.pow 2 52 + fraction
  let q : Int := (max field 1 : Nat) - 1075
  let near := fraction = 0 ∧ 1 < field
  ⟨Ratio.dyadic (4 * m - if near then 1 else 2) (q - 2), Ratio.dyadic (4 * m) (q - 2),
    Ratio.dyadic (4 * m + 2) (q - 2), m % 2 = 0⟩

end Bindery.Decimal
