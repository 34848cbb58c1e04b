import Bindery.Proofs.Json.Number

/-! Integer literals. A text is read as a 64-bit integer exactly where it is what is written for
that integer: digits without a leading zero, behind a sign if it is negative. -/
namespace Bindery.Json

/-! ## Digits without a leading zero -/

/-- Digits with a zero in front only where it is the only one. -/
structure IsDigits (cs : List Char) : Prop where
  digits : ∀ c ∈ cs, c.isDigit = true
  nonempty : cs ≠ []
  lead : cs.head? = some '0' → cs.length = 1

theorem digitChar_of_isDigit {c : Char} (digit : c.isDigit = true) :
    c.toNat - '0'.toNat < 10 ∧ Nat.digitChar (c.toNat - '0'.toNat) = c :=
  of_isDigit (fun c => c.toNat - '0'.toNat < 10 ∧ Nat.digitChar (c.toNat - '0'.toNat) = c)
    (by decide) digit

theorem toDigits_append {n : Nat} (positive : 0 < n) {cs : List Char}
    (digits : ∀ c ∈ cs, c.isDigit = true) :
    Nat.toDigits 10 n ++ cs = Nat.toDigits 10 (Nat.ofDigitChars 10 cs n) := by
  induction cs generalizing n with
  | nil => simp
  | cons c cs ih =>
    obtain ⟨here, others⟩ := List.forall_mem_cons.mp digits
    obtain ⟨small, same⟩ := digitChar_of_isDigit here
    have one : [c] = Nat.toDigits 10 (c.toNat - '0'.toNat) := by
      rw [Nat.toDigits_of_lt_base small, same]
    rw [Nat.ofDigitChars_cons, ← ih (by omega) others, List.append_cons, one,
      Nat.toDigits_append_toDigits (by decide) positive small]

theorem eq_toDigits {cs : List Char} (digits : IsDigits cs) :
    cs = Nat.toDigits 10 (Nat.ofDigitChars 10 cs 0) := by
  obtain ⟨all, nonempty, lead⟩ := digits
  cases cs with
  | nil => exact absurd rfl nonempty
  | cons c cs =>
    obtain ⟨here, others⟩ := List.forall_mem_cons.mp all
    obtain ⟨small, same⟩ := digitChar_of_isDigit here
    by_cases zero : c = '0'
    · subst zero
      have alone : cs = [] := by simpa using lead rfl
      subst alone
      rfl
    · have positive : 0 < c.toNat - '0'.toNat := by
        refine Nat.pos_of_ne_zero fun none => zero ?_
        rw [none] at same
        exact same.symm
      rw [Nat.ofDigitChars_cons, Nat.mul_zero, Nat.zero_add, ← toDigits_append positive others,
        Nat.toDigits_of_lt_base small, same]
      rfl

theorem head?_toDigits {n : Nat} (positive : 0 < n) : (Nat.toDigits 10 n).head? ≠ some '0' := by
  induction n using Nat.strongRecOn with
  | ind n ih =>
    by_cases small : n < 10
    · rw [Nat.toDigits_of_lt_base small]
      intro zero
      have same : Nat.digitChar n = '0' := Option.some.inj zero
      have value := Nat.toNat_digitChar_of_lt_ten small
      rw [same] at value
      change 48 = 48 + n at value
      omega
    · have low : 10 ≤ n := Nat.le_of_not_lt small
      have front := ih (n / 10) (by omega) (by omega)
      rw [Nat.toDigits_of_base_le (by decide) low]
      cases digits : Nat.toDigits 10 (n / 10) with
      | nil => exact absurd digits Nat.toDigits_ne_nil
      | cons c cs =>
        rw [digits] at front
        exact front

theorem isDigits_toDigits (n : Nat) : IsDigits (Nat.toDigits 10 n) where
  digits := isDigit_toDigits n
  nonempty := Nat.toDigits_ne_nil
  lead := fun zero => by
    rcases Nat.eq_zero_or_pos n with rfl | positive
    · rfl
    · exact absurd zero (head?_toDigits positive)

/-! ## Reading -/

theorem isSome_digitValue?_iff {c : Char} :
    (digitValue? c).isSome = true ↔ c.isDigit = true := by
  constructor
  · intro given
    unfold digitValue? at given
    split at given
    · rename_i range
      simpa [Char.isDigit, Char.le_def] using range
    · cases given
  · intro digit
    rw [digitValue_of_isDigit digit]
    rfl

namespace Number

def valuesOf (s : List Char) : List Nat := s.map fun c => c.toNat - '0'.toNat

theorem filterMap_digits {s : List Char} (digits : ∀ c ∈ s, c.isDigit = true) :
    s.filterMap digitValue? = valuesOf s := by
  induction s with
  | nil => rfl
  | cons c s ih =>
    obtain ⟨here, others⟩ := List.forall_mem_cons.mp digits
    rw [List.filterMap_cons_some (digitValue_of_isDigit here), ih others]
    rfl

theorem takeDigits_eq_iff {s : List Char} {values : List Nat} :
    takeDigits s = (values, []) ↔ (∀ c ∈ s, c.isDigit = true) ∧ values = valuesOf s := by
  have both := List.takeWhile_append_dropWhile (p := fun c => (digitValue? c).isSome) (l := s)
  constructor
  · intro taken
    obtain ⟨first, rest⟩ := Prod.mk.inj taken
    rw [rest, List.append_nil] at both
    have all := List.all_takeWhile (p := fun c => (digitValue? c).isSome) (l := s)
    rw [both] at first all
    have digits : ∀ c ∈ s, c.isDigit = true :=
      fun c listed => isSome_digitValue?_iff.mp (List.all_eq_true.mp all c listed)
    exact ⟨digits, by rw [← first, filterMap_digits digits]⟩
  · rintro ⟨digits, rfl⟩
    have all : ∀ c ∈ s, (digitValue? c).isSome = true :=
      fun c listed => isSome_digitValue?_iff.mpr (digits c listed)
    have none : s.dropWhile (fun c => (digitValue? c).isSome) = [] := by
      clear both digits
      induction s with
      | nil => rfl
      | cons c s ih =>
        obtain ⟨here, others⟩ := List.forall_mem_cons.mp all
        exact (List.dropWhile_cons_of_pos (p := fun c => (digitValue? c).isSome) here).trans
          (ih others)
    rw [none, List.append_nil] at both
    rw [takeDigits, none, both, filterMap_digits digits]

theorem ofDigits_valuesOf (s : List Char) : ofDigits (valuesOf s) = Nat.ofDigitChars 10 s 0 := by
  rw [ofDigits, valuesOf, List.foldl_map, Nat.ofDigitChars_eq_foldl]

theorem map_signed_ne (found : Option Float) (negative : Bool) (n : Int) :
    found.map (signed negative) ≠ some (.integer n) := by
  cases found with
  | none => exact nofun
  | some x => exact nofun

def Spells (negative : Bool) (m : Nat) (n : Int) : Prop :=
  if negative then 0 < m ∧ m ≤ 0x8000000000000000 ∧ n = -m
  else m < 0x10000000000000000 ∧ n = m

theorem integral?_eq_integer_iff {negative : Bool} {digits : List Nat} {n : Int} :
    integral? negative digits = some (.integer n) ↔ Spells negative (ofDigits digits) n := by
  have limit : significandLimit = 0x10000000000000000 := rfl
  have half : Nat.pow 2 63 = 0x8000000000000000 := rfl
  have noFloat := map_signed_ne ((({} : Gathered).whole digits).float? false 0) negative n
  unfold integral? Spells
  rw [limit, half]
  by_cases small : ofDigits digits < 0x10000000000000000
  · rw [if_pos small]
    cases negative with
    | false =>
      rw [if_neg Bool.false_ne_true, if_neg Bool.false_ne_true, and_iff_right small,
        Option.some.injEq, Number.integer.injEq]
      exact eq_comm
    | true =>
      by_cases out : ofDigits digits = 0 ∨ 0x8000000000000000 < ofDigits digits
      · rw [if_pos rfl, if_pos out, if_pos rfl]
        exact ⟨nofun, fun spells => by omega⟩
      · have fits : 0 < ofDigits digits ∧ ofDigits digits ≤ 0x8000000000000000 := by
          omega
        rw [if_pos rfl, if_neg out, if_pos rfl, and_iff_right fits.1, and_iff_right fits.2]
        simp [eq_comm]
  · rw [if_neg small]
    refine ⟨fun read => absurd read noFloat, fun spells => ?_⟩
    split at spells
    · omega
    · exact absurd spells.1 small

theorem isDigits_iff {s : List Char} (digits : ∀ c ∈ s, c.isDigit = true) :
    IsDigits s ↔ ¬ ((valuesOf s).isEmpty = true ∨
      (valuesOf s).head? = some 0 ∧ (valuesOf s).length ≠ 1) := by
  cases s with
  | nil => exact ⟨fun written => absurd rfl written.nonempty, fun other => absurd (.inl rfl) other⟩
  | cons c s =>
    obtain ⟨_, same⟩ := digitChar_of_isDigit (digits c List.mem_cons_self)
    have zero : c.toNat - '0'.toNat = 0 ↔ c = '0' := by
      constructor
      · intro none
        rw [none] at same
        exact same.symm
      · rintro rfl
        rfl
    have lead : (c :: s).head? = some '0' ↔ (valuesOf (c :: s)).head? = some 0 := by
      rw [List.head?_cons, valuesOf, List.map_cons, List.head?_cons, Option.some_inj,
        Option.some_inj, zero]
    have length : (valuesOf (c :: s)).length = (c :: s).length := List.length_map _
    constructor
    · rintro written (none | ⟨first, other⟩)
      · cases none
      · exact other (length.trans (written.lead (lead.mpr first)))
    · intro sound
      refine ⟨digits, List.cons_ne_nil c s, fun first => ?_⟩
      rw [← length]
      exact Decidable.byContradiction fun other => sound (.inr ⟨lead.mp first, other⟩)

theorem unsigned?_eq_integer_iff {negative : Bool} {s : List Char} {n : Int} :
    unsigned? negative s = some (.integer n) ↔
      IsDigits s ∧ Spells negative (Nat.ofDigitChars 10 s 0) n := by
  rw [← ofDigits_valuesOf, ← integral?_eq_integer_iff]
  constructor
  · intro read
    unfold unsigned? at read
    cases taken : takeDigits s with
    | mk values rest =>
      simp only [taken] at read
      split at read
      · cases read
      rename_i whole
      split at read
      · obtain ⟨digits, rfl⟩ := takeDigits_eq_iff.mp taken
        exact ⟨(isDigits_iff digits).mpr whole, read⟩
      · split at read
        · cases read
        split at read
        · exact absurd read (map_signed_ne _ _ _)
        split at read
        · obtain ⟨_, _, read⟩ := Option.bind_eq_some_iff.mp read
          exact absurd read (map_signed_ne _ _ _)
        · cases read
      · split at read
        · obtain ⟨_, _, read⟩ := Option.bind_eq_some_iff.mp read
          exact absurd read (map_signed_ne _ _ _)
        · cases read
  · rintro ⟨written, whole⟩
    have taken := takeDigits_eq_iff.mpr ⟨written.digits, rfl⟩
    unfold unsigned?
    simp only [taken]
    rw [if_neg ((isDigits_iff written.digits).mp written)]
    exact whole

def IsWord : Number → Prop
  | integer n => -0x8000000000000000 ≤ n ∧ n < 0x10000000000000000
  | float _ => False

theorem spells_toDigits {negative : Bool} {m : Nat} {n : Int} (spells : Spells negative m n) :
    unsigned? negative (Nat.toDigits 10 m) = some (.integer n) :=
  unsigned?_eq_integer_iff.mpr ⟨isDigits_toDigits m, by rwa [Nat.ofDigitChars_ten_toDigits]⟩

theorem isWord_integer_iff (n : Int) :
    IsWord (.integer n) ↔ -0x8000000000000000 ≤ n ∧ n < 0x10000000000000000 := Iff.rfl

/-- A text is a 64-bit integer if and only if it is what is written for one. -/
theorem read?_eq_integer_iff {s : List Char} {n : Int} :
    read? s = some (.integer n) ↔ s = (render (.integer n)).toList ∧ IsWord (.integer n) := by
  rw [isWord_integer_iff]
  constructor
  · intro read
    unfold read? at read
    split at read
    · rename_i digits
      obtain ⟨written, positive, fits, rfl⟩ := unsigned?_eq_integer_iff.mp read
      obtain ⟨m, value⟩ := Nat.exists_eq_add_one.mpr positive
      have text := eq_toDigits written
      rw [value] at fits text ⊢
      have same : -((m + 1 : Nat) : Int) = .negSucc m := rfl
      rw [same, toList_render_negSucc, ← text]
      exact ⟨rfl, by omega, by omega⟩
    · obtain ⟨written, fits, rfl⟩ := unsigned?_eq_integer_iff.mp read
      exact ⟨(eq_toDigits written).trans (toList_render_ofNat _).symm, by omega, by omega⟩
  · rintro ⟨rfl, low, high⟩
    cases n with
    | ofNat m =>
      have small : m < 0x10000000000000000 := Int.ofNat_lt.mp high
      have unsigned : ∀ rest, Nat.toDigits 10 m ≠ '-' :: rest := by
        intro rest sign
        have digit := isDigit_toDigits m '-' (by rw [sign]; exact List.mem_cons_self)
        cases digit
      rw [toList_render_ofNat]
      unfold read?
      split
      · rename_i rest sign
        exact absurd sign (unsigned rest)
      · exact spells_toDigits ⟨small, rfl⟩
    | negSucc m =>
      rw [toList_render_negSucc]
      exact spells_toDigits ⟨by omega, by omega, rfl⟩

end Number

end Bindery.Json
