import Bindery.Proofs.Text.Numeral

/-! What numerals denote. A text is read as the number that it denotes or not at all. An accumulator
of limited range, which gives up at the first result that does not fit, comes to the same for
numerals of any length. -/
namespace Bindery

/-- Decimal digits, at least one, and what they are worth together. -/
structure IsDecimal (cs : List Char) (n : Nat) : Prop where
  nonempty : cs ≠ []
  digits : ∀ c ∈ cs, c.isDigit = true
  value : Nat.ofDigitChars 10 cs 0 = n

/-- A text that denotes a number: its digits, maybe behind a plus sign. Leading zeros change
nothing. -/
inductive Denotes (text : List Char) (n : Nat) : Prop where
  | plain (decimal : IsDecimal text n)
  | signed {digits : List Char} (sign : text = '+' :: digits) (decimal : IsDecimal digits n)

/-! ## Digits -/

theorem isDigit_of_digitValue {c : Char} {d : Nat} (worth : digitValue? c = some d) :
    c.isDigit = true := by
  unfold digitValue? at worth
  split at worth
  · rename_i range
    simpa [Char.isDigit, Char.le_def] using range
  · cases worth

theorem digitsFrom_eq_some_iff {cs : List Char} {high n : Nat} :
    digitsFrom? high cs = some n ↔
      (∀ c ∈ cs, c.isDigit = true) ∧ Nat.ofDigitChars 10 cs high = n := by
  constructor
  · intro spelled
    have digits : ∀ c ∈ cs, c.isDigit = true := by
      induction cs generalizing high with
      | nil => exact nofun
      | cons c cs ih =>
        obtain ⟨d, worth, rest⟩ := Option.bind_eq_some_iff.mp spelled
        exact List.forall_mem_cons.mpr ⟨isDigit_of_digitValue worth, ih rest⟩
    refine ⟨digits, ?_⟩
    rw [digitsFrom_digits cs digits] at spelled
    exact Option.some.inj spelled
  · rintro ⟨digits, rfl⟩
    exact digitsFrom_digits cs digits high

theorem isDecimal_iff {cs : List Char} {n : Nat} :
    IsDecimal cs n ↔ cs ≠ [] ∧ digitsFrom? 0 cs = some n := by
  rw [digitsFrom_eq_some_iff]
  constructor
  · rintro ⟨nonempty, each, value⟩
    exact ⟨nonempty, each, value⟩
  · rintro ⟨nonempty, each, value⟩
    exact ⟨nonempty, each, value⟩

theorem isDecimal_toDigits (n : Nat) : IsDecimal (Nat.toDigits 10 n) n where
  nonempty := Nat.toDigits_ne_nil
  digits := isDigit_toDigits n
  value := Nat.ofDigitChars_ten_toDigits

/-! ## Numerals -/

def unsigned : List Char → List Char
  | '+' :: rest => rest
  | text => text

theorem unsigned_of_plain {text : List Char} (plain : ∀ rest, text ≠ '+' :: rest) :
    unsigned text = text := by
  unfold unsigned
  split
  · exact absurd rfl (plain _)
  · rfl

theorem unsigned_of_isDigit {text : List Char} (digits : ∀ c ∈ text, c.isDigit = true) :
    unsigned text = text := by
  apply unsigned_of_plain
  rintro rest rfl
  exact absurd (digits '+' List.mem_cons_self) (by decide)

theorem denotes_iff {text : List Char} {n : Nat} : Denotes text n ↔ IsDecimal (unsigned text) n := by
  constructor
  · rintro (decimal | ⟨rfl, decimal⟩)
    · rwa [unsigned_of_isDigit decimal.digits]
    · exact decimal
  · intro decimal
    unfold unsigned at decimal
    split at decimal
    · exact .signed rfl decimal
    · exact .plain decimal

theorem Denotes.unique {text : List Char} {m n : Nat} (one : Denotes text m)
    (other : Denotes text n) : m = n :=
  (denotes_iff.mp one).value.symm.trans (denotes_iff.mp other).value

theorem not_denotes_nil (n : Nat) : ¬ Denotes [] n := fun denotes =>
  (denotes_iff.mp denotes).nonempty rfl

theorem denotes_toDigits (n : Nat) : Denotes (Nat.toDigits 10 n) n := .plain (isDecimal_toDigits n)

theorem numeral_eq (limit : Nat) (text : List Char) : numeral? limit text =
    if (unsigned text).isEmpty then none
    else (digitsFrom? 0 (unsigned text)).filter (· < limit) := by
  unfold numeral?
  split
  · rfl
  · rename_i plain
    rw [unsigned_of_plain plain]

theorem numeral_eq_some_iff {limit n : Nat} {text : List Char} :
    numeral? limit text = some n ↔ Denotes text n ∧ n < limit := by
  rw [denotes_iff, isDecimal_iff, numeral_eq]
  split
  · rename_i empty
    have none : unsigned text = [] := List.isEmpty_iff.mp empty
    simp [none]
  · rename_i digits
    have some : unsigned text ≠ [] := fun none => digits (List.isEmpty_iff.mpr none)
    simp [Option.filter_eq_some_iff, some]

/-! ## An accumulator of limited range -/

def fit? (limit n : Nat) : Option Nat := if n < limit then some n else none

def accumulate? (limit high : Nat) : List Char → Option Nat
  | [] => some high
  | c :: rest => do
    let d ← digitValue? c
    let product ← fit? limit (10 * high)
    let sum ← fit? limit (product + d)
    accumulate? limit sum rest

theorem le_of_digitsFrom {cs : List Char} {high n : Nat} (spelled : digitsFrom? high cs = some n) :
    high ≤ n := by
  induction cs generalizing high with
  | nil => exact Nat.le_of_eq (Option.some.inj spelled)
  | cons c cs ih =>
    obtain ⟨d, _, rest⟩ := Option.bind_eq_some_iff.mp spelled
    have := ih rest
    omega

theorem fit_product_sum (limit high d : Nat) :
    ((fit? limit (10 * high)).bind fun product => fit? limit (product + d)) =
      fit? limit (10 * high + d) := by
  unfold fit?
  by_cases product : 10 * high < limit
  · rw [if_pos product]
    rfl
  · have sum : ¬ 10 * high + d < limit := by omega
    rw [if_neg product, if_neg sum]
    rfl

theorem accumulate_cons (limit high : Nat) (c : Char) (cs : List Char) :
    accumulate? limit high (c :: cs) = (digitValue? c).bind fun d =>
      (fit? limit (10 * high + d)).bind fun sum => accumulate? limit sum cs := by
  simp only [← fit_product_sum, Option.bind_assoc]
  rfl

theorem accumulate_eq {limit high : Nat} (below : high < limit) (cs : List Char) :
    accumulate? limit high cs = (digitsFrom? high cs).filter (· < limit) := by
  induction cs generalizing high with
  | nil => exact (if_pos (decide_eq_true below)).symm
  | cons c cs ih =>
    rw [accumulate_cons, digitsFrom?]
    cases digitValue? c with
    | none => rfl
    | some d =>
      simp only [Option.bind_some]
      by_cases fits : 10 * high + d < limit
      · rw [fit?, if_pos fits]
        exact ih fits
      · rw [fit?, if_neg fits]
        refine (Option.filter_eq_none_iff.mpr fun n spelled => ?_).symm
        have := le_of_digitsFrom spelled
        simp only [decide_eq_true_eq]
        omega

def accumulated? (limit : Nat) (text : List Char) : Option Nat :=
  if (unsigned text).isEmpty then none else accumulate? limit 0 (unsigned text)

theorem accumulated_eq_numeral {limit : Nat} (positive : 0 < limit) (text : List Char) :
    accumulated? limit text = numeral? limit text := by
  rw [accumulated?, accumulate_eq positive, numeral_eq]

end Bindery
