import Bindery.Proofs.Json.Canonical

/-! The last member of a name. Sorting keeps it, and the canonical form keeps its value up to the
canonical form of that. -/
namespace Bindery.Json

namespace Members

variable {α : Type}

theorem lookup_member (name : String) (member : String × α) (members : List (String × α)) :
    (member :: members).lookup name =
      if name = member.1 then some member.2 else members.lookup name := by
  obtain ⟨n, a⟩ := member
  by_cases same : name = n
  · subst same
    simp
  · have other : (name == n) = false := beq_eq_false_iff_ne.mpr same
    simp [List.lookup_cons, other, same]

def last? (name : String) (members : List (String × α)) : Option α := members.reverse.lookup name

theorem last?_append (name : String) (before behind : List (String × α)) :
    last? name (before ++ behind) = (last? name behind).or (last? name before) := by
  rw [last?, List.reverse_append, List.lookup_append]
  rfl

theorem last?_cons (name : String) (member : String × α) (members : List (String × α)) :
    last? name (member :: members) =
      (last? name members).or (if name = member.1 then some member.2 else none) := by
  rw [← List.singleton_append, last?_append]
  exact congrArg _ (lookup_member name member [])

theorem isSome_last?_iff {name : String} {members : List (String × α)} :
    (last? name members).isSome = true ↔ name ∈ members.map Prod.fst := by
  induction members with
  | nil => simp [last?]
  | cons member rest ih =>
    rw [last?_cons, List.map_cons, List.mem_cons, ← ih, Option.isSome_or, Bool.or_eq_true]
    by_cases same : name = member.1
    · simp [same]
    · simp [same]

theorem last?_eq_none {name : String} {members : List (String × α)}
    (absent : name ∉ members.map Prod.fst) : last? name members = none := by
  rw [← isSome_last?_iff] at absent
  simpa using absent

theorem last?_filter {name : String} {keeps : String × α → Bool}
    (kept : ∀ a, keeps (name, a) = true) (members : List (String × α)) :
    last? name (members.filter keeps) = last? name members := by
  induction members with
  | nil => rfl
  | cons member rest ih =>
    obtain ⟨n, a⟩ := member
    rw [last?_cons, ← ih]
    cases keep : keeps (n, a) with
    | true => rw [List.filter_cons_of_pos keep, last?_cons]
    | false =>
      have other : name ≠ n := by
        rintro rfl
        exact absurd ((kept a).symm.trans keep) (by decide)
      rw [List.filter_cons_of_neg (by simp [keep]), if_neg other, Option.or_none]

theorem lookup_insert (name other : String) (a : α) (members : List (String × α)) :
    (insert name a members).lookup other =
      if other = name then some a else members.lookup other := by
  induction members with
  | nil => exact lookup_member other (name, a) []
  | cons first rest ih =>
    obtain ⟨n, v⟩ := first
    unfold insert
    split
    · exact lookup_member other (name, a) _
    split
    · rename_i same
      subst same
      rw [lookup_member, lookup_member]
      split
      · rfl
      · rfl
    · rename_i different
      rw [lookup_member, lookup_member, ih]
      split
      · rename_i here
        exact (if_neg fun same => different (same.symm.trans here)).symm
      · rfl

theorem lookup_foldl_insert (name : String) (members done : List (String × α)) :
    (members.foldl (fun sorted (name, value) => insert name value sorted) done).lookup name =
      (last? name members).or (done.lookup name) := by
  induction members generalizing done with
  | nil => rfl
  | cons first rest ih =>
    rw [List.foldl_cons, ih, lookup_insert, last?_cons, Option.or_assoc]
    split
    · rfl
    · rfl

theorem lookup_sort (name : String) (members : List (String × α)) :
    (sort members).lookup name = last? name members :=
  (lookup_foldl_insert name members []).trans (Option.or_none)

theorem map_insert {β : Type} (f : α → β) (name : String) (a : α) (members : List (String × α)) :
    (insert name a members).map (fun member => (member.1, f member.2)) =
      insert name (f a) (members.map fun member => (member.1, f member.2)) := by
  induction members with
  | nil => rfl
  | cons first rest ih =>
    obtain ⟨n, v⟩ := first
    simp only [insert, List.map_cons]
    split
    · rfl
    split
    · rfl
    · rw [List.map_cons, ih]

theorem map_sort {β : Type} (f : α → β) (members : List (String × α)) :
    (sort members).map (fun member => (member.1, f member.2)) =
      sort (members.map fun member => (member.1, f member.2)) := by
  have along (done : List (String × α)) :
      (members.foldl (fun sorted (name, value) => insert name value sorted) done).map
          (fun member => (member.1, f member.2)) =
        (members.map fun member => (member.1, f member.2)).foldl
          (fun sorted (name, value) => insert name value sorted)
          (done.map fun member => (member.1, f member.2)) := by
    induction members generalizing done with
    | nil => rfl
    | cons first rest ih => rw [List.foldl_cons, ih, map_insert, List.map_cons, List.foldl_cons]
  exact along []

/-- Sorting keeps the last member of each name. -/
theorem last?_sort (name : String) (members : List (String × α)) :
    last? name (sort members) = last? name members := by
  rw [← lookup_sort name (sort members), sort_of_sorted (sorted_sort members), lookup_sort]

end Members

theorem last?_canonicalMembers (name : String) (members : Members) :
    Members.last? name (canonicalMembers members) =
      (Members.last? name members).map Value.canonical := by
  induction members with
  | nil => rfl
  | cons first rest ih =>
    obtain ⟨n, v⟩ := first
    rw [canonicalMembers, Members.last?_cons, Members.last?_cons, ih, Option.map_or]
    split
    · rfl
    · rfl

end Bindery.Json
