import Bindery.Text.Blank
import Bindery.Text.Numeral

/-! Numerals as they are written. A number below the limit is read back from its decimal digits,
and a numeral has neither blanks nor markup in it, so that nothing is cut off around it. -/
namespace Bindery

theorem digitValue_of_isDigit {c : Char} (digit : c.isDigit = true) :
    digitValue? c = some (c.toNat - '0'.toNat) := by
  have range : '0' ≤ c ∧ c ≤ '9' := by
    simpa [Char.isDigit, Char.le_def] using digit
  exact if_pos range

theorem digitsFrom_digits (cs : List Char) (digits : ∀ c ∈ cs, c.isDigit = true) (high : Nat) :
    digitsFrom? high cs = some (Nat.ofDigitChars 10 cs high) := by
  induction cs generalizing high with
  | nil => simp [digitsFrom?]
  | cons c cs ih =>
    have rest := fun d hd => digits d (List.mem_cons_of_mem c hd)
    simp only [digitsFrom?, digitValue_of_isDigit (digits c List.mem_cons_self), Option.bind_some,
      ih rest, Nat.ofDigitChars_cons]

theorem isDigit_toDigits (n : Nat) : ∀ c ∈ Nat.toDigits 10 n, c.isDigit = true :=
  fun _ member => Nat.isDigit_of_mem_toDigits (by decide) (by decide) member

theorem numeral_toDigits {limit n : Nat} (below : n < limit) :
    numeral? limit (Nat.toDigits 10 n) = some n := by
  have digits := isDigit_toDigits n
  have whole := digitsFrom_digits _ digits 0
  cases written : Nat.toDigits 10 n with
  | nil => exact absurd written Nat.toDigits_ne_nil
  | cons c cs =>
    rw [written] at digits whole
    have unsigned : c ≠ '+' := by
      rintro rfl
      exact absurd (digits '+' List.mem_cons_self) (by decide)
    have value : Nat.ofDigitChars 10 (c :: cs) 0 = n := by
      rw [← written, Nat.ofDigitChars_ten_toDigits]
    unfold numeral?
    split
    · rename_i sign
      exact absurd (List.cons.inj sign).1 unsigned
    · simp [whole, value, below]

theorem of_isDigit (p : Char → Prop) (each : ∀ d : Fin 10, p (Char.ofNat (48 + d))) {c : Char}
    (digit : c.isDigit = true) : p c := by
  simp only [Char.isDigit, Bool.and_eq_true, decide_eq_true_eq, UInt32.le_iff_toNat_le] at digit
  have low : 48 ≤ c.toNat := digit.1
  have high : c.toNat ≤ 57 := digit.2
  have place : 48 + (c.toNat - 48) = c.toNat := by omega
  have holds := each ⟨c.toNat - 48, by omega⟩
  rwa [place, Char.ofNat_toNat] at holds

theorem not_isBlank_of_isDigit {c : Char} (digit : c.isDigit = true) : isBlank c = false :=
  of_isDigit (isBlank · = false) (by decide) digit

theorem trim_eq_self {blank : Char → Bool} {cs : List Char} (solid : ∀ c ∈ cs, blank c = false) :
    trim blank cs = cs := by
  have keep : ∀ ds : List Char, (∀ c ∈ ds, blank c = false) → ds.dropWhile blank = ds := by
    intro ds solid
    cases ds with
    | nil => rfl
    | cons d ds => simp [solid d List.mem_cons_self]
  have back := keep cs.reverse fun c hc => solid c (List.mem_reverse.mp hc)
  simp [trim, trimStart, trimEnd, keep cs solid, back]

end Bindery
