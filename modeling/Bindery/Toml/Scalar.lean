import Bindery.Text.Numeral

/-! Values of TOML that are written without quotes: booleans, numbers, dates and times. Only their
form and range are checked; what they denote is not kept. -/
namespace Bindery.Toml.Scalar

def isDigit (c : Char) : Bool := '0' ≤ c && c ≤ '9'

/-- The digits of a group in which single underscores may stand between digits; none if the group
has another form. -/
def group? (isOk : Char → Bool) (s : List Char) : Option (List Char) :=
  let rec go (afterDigit : Bool) : List Char → Option (List Char)
    | [] => if afterDigit then some [] else none
    | c :: rest =>
      if isOk c then (go true rest).map (c :: ·)
      else if c = '_' ∧ afterDigit then go false rest
      else none
  go false s

def whole? (s : List Char) : Option (List Char) :=
  match group? isDigit s with
  | some ('0' :: _ :: _) => none
  | digits => digits

def value (base : Nat) (digits : List Char) : Nat :=
  digits.foldl (fun n c => base * n + (hexValue? c).getD 0) 0

def unsign (s : List Char) : Bool × List Char :=
  match s with
  | '-' :: rest => (true, rest)
  | '+' :: rest => (false, rest)
  | _ => (false, s)

def isInteger (s : List Char) : Bool :=
  let radix (base : Nat) (digits : List Char) : Bool :=
    match group? (fun c => ((hexValue? c).filter (· < base)).isSome) digits with
    | some digits => value base digits < Nat.pow 2 128
    | none => false
  match s with
  | '0' :: 'x' :: digits => radix 16 digits
  | '0' :: 'o' :: digits => radix 8 digits
  | '0' :: 'b' :: digits => radix 2 digits
  | _ =>
    let (negative, rest) := unsign s
    match whole? rest with
    | some digits =>
      if negative then value 10 digits ≤ Nat.pow 2 127 else value 10 digits < Nat.pow 2 128
    | none => false

/-- The least number that rounds to no finite double: halfway from the greatest double to the
power of two above it. -/
def finiteLimit : Nat := Nat.pow 2 1024 - Nat.pow 2 970

def isFinite (digits : List Char) (exponent : Int) : Bool :=
  let n := value 10 digits
  if n = 0 then true
  else if 400 < exponent then false
  else if 0 ≤ exponent then n * Nat.pow 10 exponent.toNat < finiteLimit
  else if digits.length ≤ (-exponent).toNat then true
  else n < finiteLimit * Nat.pow 10 (-exponent).toNat

def exponentLimit : Nat := 0x10000

def exponent? (s : List Char) : Option Int :=
  let (negative, rest) := unsign s
  (group? isDigit rest).map fun digits =>
    let n := digits.foldl (fun n c => if n < exponentLimit then value 10 [c] + 10 * n else n) 0
    if negative then Int.negOfNat n else Int.ofNat n

/-- Decimals with a fraction, an exponent or both, infinities, and what is not a number. -/
def isFloat (s : List Char) : Bool :=
  let (_, rest) := unsign s
  if rest = "inf".toList ∨ rest = "nan".toList then true
  else
    let isExponent := fun c => c == 'e' || c == 'E'
    let mantissa := rest.takeWhile (! isExponent ·)
    let power := rest.dropWhile (! isExponent ·)
    let (whole, fraction) := match cut? ['.'] mantissa with
      | some (whole, fraction) => (whole, some fraction)
      | none => (mantissa, none)
    let exponent := match power with
      | [] => some 0
      | _ :: digits => exponent? digits
    if power.isEmpty && fraction.isNone then false
    else
      match whole? whole, (fraction.getD ['0'] |> group? isDigit), exponent with
      | some w, some f, some e =>
        isFinite (w ++ f) (e - f.length)
      | _, _, _ => false

def pair? (low high : Nat) (a b : Char) : Option Nat :=
  if isDigit a && isDigit b then
    let n := value 10 [a, b]
    if low ≤ n ∧ n ≤ high then some n else none
  else none

def daysIn (year month : Nat) : Nat :=
  if month = 2 then
    if year % 4 = 0 ∧ (year % 100 ≠ 0 ∨ year % 400 = 0) then 29 else 28
  else if month = 4 ∨ month = 6 ∨ month = 9 ∨ month = 11 then 30
  else 31

def afterDate? (s : List Char) : Option (List Char) :=
  match s with
  | y1 :: y2 :: y3 :: y4 :: '-' :: m1 :: m2 :: '-' :: d1 :: d2 :: rest =>
    if [y1, y2, y3, y4].all isDigit then do
      let month ← pair? 1 12 m1 m2
      let _ ← pair? 1 (daysIn (value 10 [y1, y2, y3, y4]) month) d1 d2
      some rest
    else none
  | _ => none

/-- What follows a time of day at the start of a text. Seconds may be absent. -/
def afterTime? (s : List Char) : Option (List Char) :=
  match s with
  | h1 :: h2 :: ':' :: m1 :: m2 :: rest => do
    let _ ← pair? 0 23 h1 h2
    let _ ← pair? 0 59 m1 m2
    match rest with
    | ':' :: s1 :: s2 :: rest => do
      let _ ← pair? 0 60 s1 s2
      match rest with
      | '.' :: digits =>
        if (digits.takeWhile isDigit).isEmpty then none else some (digits.dropWhile isDigit)
      | _ => some rest
    | _ => some rest
  | _ => none

def isOffset (s : List Char) : Bool :=
  match s with
  | [] => true
  | [c] => c == 'Z' || c == 'z'
  | [sign, h1, h2, ':', m1, m2] =>
    (sign == '+' || sign == '-') && (pair? 0 23 h1 h2).isSome && (pair? 0 59 m1 m2).isSome
  | _ => false

def isMoment (s : List Char) : Bool :=
  match afterDate? s with
  | some [] => true
  | some (c :: rest) =>
    if c = 'T' ∨ c = 't' ∨ c = ' ' then
      match afterTime? rest with
      | some offset => isOffset offset
      | none => false
    else false
  | none => afterTime? s = some []

def isValid (s : List Char) : Bool :=
  s = "true".toList || s = "false".toList || isInteger s || isFloat s || isMoment s

end Bindery.Toml.Scalar
