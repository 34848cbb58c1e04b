import Bindery.Text.Blank
import Bindery.Text.Bytes
import Mathlib.Data.List.Infix

/-! Occurrences in lists. A needle none of whose ends begins it again stands first where nothing in
front of it holds it, so that a list is cut at it by what stands on either side alone. All positions
of a needle are found, the last one first. -/
namespace Bindery

def Borderless {α : Type} (needle : List α) : Prop :=
  ∀ k < needle.length, 0 < k → ¬ needle.drop k <+: needle

instance {α : Type} [DecidableEq α] (needle : List α) : Decidable (Borderless needle) :=
  inferInstanceAs (Decidable (∀ k < needle.length, 0 < k → ¬ needle.drop k <+: needle))

section

variable {α : Type} {needle before behind hay : List α}

theorem borderless_singleton (a : α) : Borderless [a] := by
  intro k below positive
  simp only [List.length_singleton] at below
  omega

theorem Borderless.eq_nil (whole : Borderless needle) (absent : ¬ needle <:+: before)
    (begins : needle <+: before ++ (needle ++ behind)) : before = [] := by
  rcases Nat.le_total needle.length before.length with shorter | longer
  · have within : needle <+: before :=
      List.prefix_of_prefix_length_le begins (List.prefix_append _ _) shorter
    exact absurd within.isInfix absent
  · have starts : before <+: needle :=
      List.prefix_of_prefix_length_le (List.prefix_append _ _) begins longer
    by_contra some
    have positive : 0 < before.length := List.length_pos_iff.mpr some
    have below : before.length < needle.length := Nat.lt_of_le_of_ne longer fun same =>
      absent (starts.eq_of_length same ▸ List.infix_rfl)
    obtain ⟨back, parts⟩ := starts
    -- What is left of the needle behind `before` would be a border of it.
    have left : needle.drop before.length = back := by
      rw [← parts]
      exact List.drop_left
    obtain ⟨more, same⟩ := begins
    nth_rewrite 1 [← parts] at same
    rw [List.append_assoc] at same
    have again : back <+: needle ++ behind := ⟨more, List.append_cancel_left same⟩
    apply whole before.length below positive
    rw [left]
    refine List.prefix_of_prefix_length_le again (List.prefix_append _ _) ?_
    rw [← parts, List.length_append]
    omega

variable [BEq α] [LawfulBEq α]

theorem cutFrom?_eq_some_iff (whole : Borderless needle) (filled : needle ≠ []) (seen : List α)
    {front : List α} :
    cutFrom? needle seen hay = some (front, behind) ↔ ∃ before,
      front = seen.reverse ++ before ∧ hay = before ++ (needle ++ behind) ∧
        ¬ needle <:+: before := by
  have absent : ¬ needle <:+: [] := fun within => filled (List.infix_nil.mp within)
  induction hay generalizing seen with
  | nil =>
    have none : needle.isEmpty = false := by simpa using filled
    simp only [cutFrom?, none, Bool.false_eq_true, if_false, reduceCtorEq, false_iff]
    rintro ⟨before, -, parts, -⟩
    have lengths := congrArg List.length parts
    have positive := List.length_pos_iff.mpr filled
    simp only [List.length_nil, List.length_append] at lengths
    omega
  | cons a hay ih =>
    rw [cutFrom?]
    split
    · rename_i begins
      obtain ⟨rest, parts⟩ := List.isPrefixOf_iff_prefix.mp begins
      rw [← parts, List.drop_left]
      constructor
      · rintro ⟨⟩
        exact ⟨[], (List.append_nil _).symm, rfl, absent⟩
      · rintro ⟨before, rfl, same, free⟩
        obtain rfl : before = [] := whole.eq_nil free (same ▸ List.prefix_append _ _)
        rw [List.nil_append] at same
        rw [List.append_nil, List.append_cancel_left same]
    · rename_i begins
      have other : ¬ needle <+: a :: hay := fun starts =>
        begins (List.isPrefixOf_iff_prefix.mpr starts)
      refine (ih (a :: seen)).trans ⟨?_, ?_⟩
      · rintro ⟨before, rfl, rfl, free⟩
        refine ⟨a :: before, by simp, rfl, fun within => ?_⟩
        rcases List.infix_cons_iff.mp within with starts | later
        · exact other (starts.trans (List.prefix_append _ _))
        · exact free later
      · rintro ⟨before, rfl, parts, free⟩
        cases before with
        | nil => exact absurd (parts ▸ List.prefix_append _ _) other
        | cons b before =>
          obtain ⟨rfl, rfl⟩ := List.cons.inj parts
          exact ⟨before, by simp, rfl, fun within => free (List.infix_cons within)⟩

/-- A list is cut at a needle without borders, if at all, with no other one in front. -/
theorem cut?_eq_some_iff (whole : Borderless needle) (filled : needle ≠ []) :
    cut? needle hay = some (before, behind) ↔
      hay = before ++ (needle ++ behind) ∧ ¬ needle <:+: before := by
  rw [cut?, cutFrom?_eq_some_iff whole filled]
  constructor
  · rintro ⟨_, rfl, parts, free⟩
    exact ⟨parts, free⟩
  · rintro ⟨parts, free⟩
    exact ⟨before, rfl, parts, free⟩

end

/-- A needle whose first element is not in a list stands behind that list. -/
theorem infix_append_iff_of_not_mem {α : Type} {a : α} {needle front rest : List α}
    (absent : a ∉ front) : a :: needle <:+: front ++ rest ↔ a :: needle <:+: rest := by
  induction front with
  | nil => rfl
  | cons b front ih =>
    have other : a ≠ b := fun same => absent (same ▸ List.mem_cons_self)
    have later : a ∉ front := fun member => absent (List.mem_cons_of_mem b member)
    rw [List.cons_append, List.infix_cons_iff, ih later, List.cons_prefix_cons]
    exact or_iff_right fun begins => other begins.1

/-- No needle reaches over an element that is not in it. -/
theorem infix_append_cons_iff {α : Type} {a : α} {needle front rest : List α} (apart : a ∉ needle) :
    needle <:+: front ++ a :: rest ↔ needle <:+: front ∨ needle <:+: rest := by
  rw [List.infix_append_iff, List.infix_cons_iff]
  constructor
  · rintro (before | (starts | behind) | ⟨ending, beginning, rfl, ends, starts⟩)
    · exact .inl before
    · cases needle with
      | nil => exact .inl List.nil_infix
      | cons b needle =>
        obtain ⟨rfl, -⟩ := List.cons_prefix_cons.mp starts
        exact absurd List.mem_cons_self apart
    · exact .inr behind
    · cases beginning with
      | nil => exact .inl (by simpa using ends.isInfix)
      | cons b beginning =>
        obtain ⟨rfl, -⟩ := List.cons_prefix_cons.mp starts
        exact absurd (List.mem_append_right ending List.mem_cons_self) apart
  · rintro (before | behind)
    · exact .inl before
    · exact .inr (.inl (.inr behind))

theorem exists_cutFrom?_of_infix {α : Type} [BEq α] [LawfulBEq α] {needle hay : List α}
    (seen : List α) (within : needle <:+: hay) :
    ∃ parts, cutFrom? needle seen hay = some parts := by
  induction hay generalizing seen with
  | nil =>
    obtain rfl := List.infix_nil.mp within
    exact ⟨_, rfl⟩
  | cons a hay ih =>
    rw [cutFrom?]
    split
    · exact ⟨_, rfl⟩
    · rename_i begins
      rw [List.isPrefixOf_iff_prefix] at begins
      exact ih _ ((List.infix_cons_iff.mp within).resolve_left begins)

theorem cutFrom?_seen {α : Type} [BEq α] (needle seen hay : List α) :
    cutFrom? needle seen hay =
      (cutFrom? needle [] hay).map fun parts => (seen.reverse ++ parts.1, parts.2) := by
  induction hay generalizing seen with
  | nil => by_cases none : needle.isEmpty = true <;> simp [cutFrom?, none]
  | cons a hay ih =>
    rw [cutFrom?, cutFrom?, ih (a :: seen), ih [a]]
    split
    · simp
    · simp [Function.comp_def]

/-- The search passes over a list that the first element of the needle is not in. -/
theorem cut?_append_of_not_mem {α : Type} [BEq α] [LawfulBEq α] {a : α} {front : List α}
    (absent : a ∉ front) (needle rest : List α) :
    cut? (a :: needle) (front ++ rest) =
      (cut? (a :: needle) rest).map fun parts => (front ++ parts.1, parts.2) := by
  induction front with
  | nil => simp
  | cons b front ih =>
    have other : a ≠ b := fun same => absent (same ▸ List.mem_cons_self)
    have later := ih fun member => absent (List.mem_cons_of_mem b member)
    have passed : cut? (a :: needle) (b :: front ++ rest) =
        (cut? (a :: needle) (front ++ rest)).map fun parts => (b :: parts.1, parts.2) := by
      rw [cut?, List.cons_append, cutFrom?, cutFrom?_seen]
      simp [other, cut?]
    rw [passed, later, Option.map_map]
    rfl

section

variable {α : Type} [BEq α] {needle filling before behind hay : List α}

theorem replaceFrom_passing (needle filling rest : List α) (passing : Nat) :
    replaceFrom needle filling passing rest = replaceAll needle filling (rest.drop passing) := by
  induction rest generalizing passing with
  | nil =>
    rw [List.drop_nil]
    rfl
  | cons a rest ih =>
    cases passing with
    | zero => rfl
    | succ passing => exact ih passing

theorem append_replaceAll (filled : needle ≠ []) (filling seen hay : List α) :
    seen.reverse ++ replaceAll needle filling hay =
      match cutFrom? needle seen hay with
      | some (front, behind) => front ++ (filling ++ replaceAll needle filling behind)
      | none => seen.reverse ++ hay := by
  induction hay generalizing seen with
  | nil =>
    have none : needle.isEmpty = false := by simpa using filled
    simp only [cutFrom?, none, Bool.false_eq_true, if_false]
    rfl
  | cons a hay ih =>
    rw [replaceAll, replaceFrom, cutFrom?]
    split
    · obtain ⟨b, rest, rfl⟩ := List.exists_cons_of_ne_nil filled
      rw [replaceFrom_passing]
      rfl
    · have rest := ih (a :: seen)
      rw [List.reverse_cons, List.append_assoc, List.append_assoc] at rest
      exact rest

theorem replaceAll_of_cut? (filled : needle ≠ [])
    (found : cut? needle hay = some (before, behind)) :
    replaceAll needle filling hay = before ++ (filling ++ replaceAll needle filling behind) := by
  have parts := append_replaceAll filled filling [] hay
  rw [← cut?, found] at parts
  exact parts

theorem replaceAll_of_absent (filled : needle ≠ []) (absent : cut? needle hay = none) :
    replaceAll needle filling hay = hay := by
  have parts := append_replaceAll filled filling [] hay
  rw [← cut?, absent] at parts
  exact parts

end

/-! ## All occurrences -/

section

variable {α : Type} [BEq α] {needle : List α}

theorem exists_later_occurrences (needle : List α) (found : List Nat) (position : Nat)
    (hay : List α) : ∃ later, occurrencesFrom needle found position hay = later ++ found ∧
      ∀ p ∈ later, position ≤ p := by
  induction hay generalizing found position with
  | nil => exact ⟨[], rfl, nofun⟩
  | cons a hay ih =>
    rw [occurrencesFrom]
    split
    · obtain ⟨later, same, behind⟩ := ih (position :: found) (position + 1)
      refine ⟨later ++ [position], by simp [same], List.forall_mem_append.mpr ⟨?_, by simp⟩⟩
      exact fun p member => Nat.le_of_succ_le (behind p member)
    · obtain ⟨later, same, behind⟩ := ih found (position + 1)
      exact ⟨later, same, fun p member => Nat.le_of_succ_le (behind p member)⟩

theorem exists_earlier_occurrences (needle : List α) (found : List Nat) (position : Nat)
    (front hay : List α) : ∃ earlier, occurrencesFrom needle found position (front ++ hay) =
      occurrencesFrom needle (earlier ++ found) (position + front.length) hay := by
  induction front generalizing found position with
  | nil => exact ⟨[], rfl⟩
  | cons a front ih =>
    have next : position + 1 + front.length = position + (a :: front).length := by
      rw [List.length_cons]
      omega
    rw [List.cons_append, occurrencesFrom]
    split
    · obtain ⟨earlier, same⟩ := ih (position :: found) (position + 1)
      exact ⟨earlier ++ [position], by simpa [next] using same⟩
    · obtain ⟨earlier, same⟩ := ih found (position + 1)
      exact ⟨earlier, by simpa [next] using same⟩

variable [LawfulBEq α]

theorem occurrencesFrom_begins {hay : List α} (filled : needle ≠ []) (begins : needle <+: hay)
    (found : List Nat) (position : Nat) : ∃ later, occurrencesFrom needle found position hay =
      later ++ position :: found ∧ ∀ p ∈ later, position < p := by
  cases hay with
  | nil => exact absurd (List.prefix_nil.mp begins) filled
  | cons a hay =>
    rw [occurrencesFrom, if_pos (List.isPrefixOf_iff_prefix.mpr begins)]
    exact exists_later_occurrences needle (position :: found) (position + 1) hay

theorem exists_occurrences (filled : needle ≠ []) (front back : List α) :
    ∃ later earlier, occurrences needle (front ++ (needle ++ back)) =
      later ++ front.length :: earlier ∧ ∀ p ∈ later, front.length < p := by
  obtain ⟨earlier, same⟩ := exists_earlier_occurrences needle [] 0 front (needle ++ back)
  obtain ⟨later, there, behind⟩ := occurrencesFrom_begins filled (List.prefix_append needle back)
    (earlier ++ []) (0 + front.length)
  rw [Nat.zero_add] at same there behind
  exact ⟨later, earlier ++ [], same.trans there, behind⟩

theorem getLast?_occurrences {hay : List α} (filled : needle ≠ []) (begins : needle <+: hay) :
    (occurrences needle hay).getLast? = some 0 := by
  obtain ⟨later, same, -⟩ := occurrencesFrom_begins filled begins [] 0
  rw [occurrences, same, List.getLast?_concat]

end

theorem trimStart_append_cons {α : Type} {blank : α → Bool} {gap : List α} {c : α} (rest : List α)
    (blanks : ∀ d ∈ gap, blank d = true) (solid : blank c = false) :
    trimStart blank (gap ++ c :: rest) = c :: rest := by
  rw [trimStart, List.dropWhile_append_of_pos blanks]
  simp [solid]

theorem exists_blanks_of_trimStart {α : Type} {blank : α → Bool} {s rest : List α}
    (trimmed : trimStart blank s = rest) :
    ∃ gap, s = gap ++ rest ∧ ∀ d ∈ gap, blank d = true := by
  refine ⟨s.takeWhile blank, ?_, List.all_eq_true.mp List.all_takeWhile⟩
  rw [← trimmed]
  exact List.takeWhile_append_dropWhile.symm

end Bindery
