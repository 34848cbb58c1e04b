import Bindery.Proofs.Json.Scan

/-! Canonical values. Sorting leaves each name once, in order, and has nothing to do where that is
so already. Numbers that are read again leave the order as it is. -/
namespace Bindery.Json

namespace Members

variable {α : Type}

def Sorted (members : List (String × α)) : Prop := (members.map Prod.fst).Pairwise (· < ·)

theorem mem_insert {name : String} {a : α} {members : List (String × α)} {member : String × α}
    (listed : member ∈ insert name a members) : member = (name, a) ∨ member ∈ members := by
  induction members with
  | nil => exact .inl (List.mem_singleton.mp listed)
  | cons first rest ih =>
    obtain ⟨n, v⟩ := first
    unfold insert at listed
    split at listed
    · exact List.mem_cons.mp listed
    split at listed
    · rcases List.mem_cons.mp listed with here | later
      · exact .inl here
      · exact .inr (List.mem_cons_of_mem _ later)
    · rcases List.mem_cons.mp listed with here | later
      · exact .inr (here ▸ List.mem_cons_self)
      · rcases ih later with same | earlier
        · exact .inl same
        · exact .inr (List.mem_cons_of_mem _ earlier)

theorem mem_foldl_insert {members sorted : List (String × α)} {member : String × α}
    (listed : member ∈
      members.foldl (fun sorted (name, value) => insert name value sorted) sorted) :
    member ∈ sorted ∨ member ∈ members := by
  induction members generalizing sorted with
  | nil => exact .inl listed
  | cons first rest ih =>
    rcases ih listed with earlier | later
    · rcases mem_insert earlier with rfl | before
      · exact .inr List.mem_cons_self
      · exact .inl before
    · exact .inr (List.mem_cons_of_mem _ later)

theorem mem_of_mem_sort {members : List (String × α)} {member : String × α}
    (listed : member ∈ sort members) : member ∈ members := by
  rcases mem_foldl_insert listed with none | here
  · cases none
  · exact here

theorem sorted_insert (name : String) (a : α) {members : List (String × α)}
    (sorted : Sorted members) : Sorted (insert name a members) := by
  induction members with
  | nil => exact List.pairwise_singleton _ _
  | cons first rest ih =>
    obtain ⟨n, v⟩ := first
    obtain ⟨least, others⟩ := List.pairwise_cons.mp sorted
    unfold insert
    split
    · rename_i before
      refine List.pairwise_cons.mpr ⟨fun m listed => ?_, sorted⟩
      rcases List.mem_cons.mp listed with rfl | later
      · exact before
      · exact String.lt_trans before (least m later)
    split
    · rename_i _ same
      subst same
      exact sorted
    · rename_i behind other
      refine List.pairwise_cons.mpr ⟨fun m listed => ?_, ih others⟩
      obtain ⟨member, inserted, rfl⟩ := List.mem_map.mp listed
      rcases mem_insert inserted with rfl | earlier
      · exact Std.lt_of_le_of_ne behind (Ne.symm other)
      · exact least _ (List.mem_map_of_mem earlier)

theorem sorted_foldl_insert (members : List (String × α)) {sorted : List (String × α)}
    (so : Sorted sorted) :
    Sorted (members.foldl (fun sorted (name, value) => insert name value sorted) sorted) := by
  induction members generalizing sorted with
  | nil => exact so
  | cons first rest ih => exact ih (sorted_insert first.1 first.2 so)

theorem sorted_sort (members : List (String × α)) : Sorted (sort members) :=
  sorted_foldl_insert members List.Pairwise.nil

theorem insert_behind {name : String} (a : α) {members : List (String × α)}
    (greatest : ∀ member ∈ members, member.1 < name) :
    insert name a members = members ++ [(name, a)] := by
  induction members with
  | nil => rfl
  | cons first rest ih =>
    obtain ⟨n, v⟩ := first
    obtain ⟨here, later⟩ := List.forall_mem_cons.mp greatest
    have other : name ≠ n := fun same => String.lt_irrefl n (same ▸ here)
    have behind : ¬ name < n := fun before => String.lt_irrefl n (String.lt_trans here before)
    rw [insert, if_neg behind, if_neg other, ih later]
    rfl

theorem foldl_insert_of_sorted {members done : List (String × α)}
    (sorted : Sorted (done ++ members)) :
    members.foldl (fun sorted (name, value) => insert name value sorted) done =
      done ++ members := by
  induction members generalizing done with
  | nil => exact (List.append_nil done).symm
  | cons first rest ih =>
    obtain ⟨n, v⟩ := first
    have greatest : ∀ member ∈ done, member.1 < n := by
      intro member listed
      unfold Sorted at sorted
      rw [List.map_append, List.pairwise_append] at sorted
      exact sorted.2.2 _ (List.mem_map_of_mem listed) n List.mem_cons_self
    have longer : Sorted ((done ++ [(n, v)]) ++ rest) := by
      rw [List.append_assoc, List.singleton_append]
      exact sorted
    change rest.foldl _ (insert n v done) = _
    rw [insert_behind v greatest, ih longer, List.append_assoc, List.singleton_append]

theorem sort_of_sorted {members : List (String × α)} (sorted : Sorted members) :
    sort members = members :=
  @foldl_insert_of_sorted α members [] sorted

end Members

/-! ## Values -/

mutual

def Value.IsCanonical : Value → Prop
  | .array items => AreCanonical items
  | .object members => Members.Sorted members ∧ Members.AreCanonical members
  | .null => True
  | .bool _ => True
  | .number _ => True
  | .string _ => True

def AreCanonical : List Value → Prop
  | [] => True
  | v :: rest => v.IsCanonical ∧ AreCanonical rest

def Members.AreCanonical : List (String × Value) → Prop
  | [] => True
  | (_, v) :: rest => v.IsCanonical ∧ Members.AreCanonical rest

end

theorem Members.areCanonical_iff (members : Members) :
    AreCanonical members ↔ ∀ member ∈ members, member.2.IsCanonical := by
  induction members with
  | nil => simp [AreCanonical]
  | cons first rest ih => simp [AreCanonical, ih]

theorem mem_canonicalMembers {members : Members} {member : String × Value}
    (listed : member ∈ canonicalMembers members) :
    ∃ v, (member.1, v) ∈ members ∧ member.2 = v.canonical := by
  induction members with
  | nil => cases listed
  | cons first rest ih =>
    obtain ⟨n, v⟩ := first
    rcases List.mem_cons.mp listed with rfl | later
    · exact ⟨v, List.mem_cons_self, rfl⟩
    · obtain ⟨w, there, same⟩ := ih later
      exact ⟨w, List.mem_cons_of_mem _ there, same⟩

mutual

theorem isCanonical_canonical : (v : Value) → v.canonical.IsCanonical
  | .array items => areCanonical_canonicalItems items
  | .object members => by
    refine ⟨Members.sorted_sort _, (Members.areCanonical_iff _).mpr fun member listed => ?_⟩
    have all := areCanonical_canonicalMembers members
    exact (Members.areCanonical_iff _).mp all member (Members.mem_of_mem_sort listed)
  | .null => trivial
  | .bool _ => trivial
  | .number _ => trivial
  | .string _ => trivial

theorem areCanonical_canonicalItems : (items : List Value) → AreCanonical (canonicalItems items)
  | [] => trivial
  | v :: rest => ⟨isCanonical_canonical v, areCanonical_canonicalItems rest⟩

theorem areCanonical_canonicalMembers : (members : List (String × Value)) →
    Members.AreCanonical (canonicalMembers members)
  | [] => trivial
  | (_, v) :: rest => ⟨isCanonical_canonical v, areCanonical_canonicalMembers rest⟩

end

mutual

theorem canonical_of_isCanonical : (v : Value) → v.IsCanonical → v.canonical = v
  | .array items, canonical => congrArg Value.array (canonicalItems_of_areCanonical items canonical)
  | .object members, ⟨sorted, canonical⟩ => by
    rw [Value.canonical, canonicalMembers_of_areCanonical members canonical,
      Members.sort_of_sorted sorted]
  | .null, _ => rfl
  | .bool _, _ => rfl
  | .number _, _ => rfl
  | .string _, _ => rfl

theorem canonicalItems_of_areCanonical : (items : List Value) → AreCanonical items →
    canonicalItems items = items
  | [], _ => rfl
  | v :: rest, ⟨first, others⟩ => by
    rw [canonicalItems, canonical_of_isCanonical v first,
      canonicalItems_of_areCanonical rest others]

theorem canonicalMembers_of_areCanonical : (members : List (String × Value)) →
    Members.AreCanonical members → canonicalMembers members = members
  | [], _ => rfl
  | (_, v) :: rest, ⟨first, others⟩ => by
    rw [canonicalMembers, canonical_of_isCanonical v first,
      canonicalMembers_of_areCanonical rest others]

end

/-! ## Values that are read again -/

theorem names_rereadMembers? {members again : Members}
    (read : rereadMembers? members = some again) :
    again.map Prod.fst = members.map Prod.fst := by
  induction members generalizing again with
  | nil =>
    cases read
    rfl
  | cons first rest ih =>
    obtain ⟨n, u⟩ := first
    simp only [rereadMembers?, Option.bind_eq_some_iff, Option.map_eq_some_iff] at read
    obtain ⟨w, _, others, behind, rfl⟩ := read
    rw [List.map_cons, List.map_cons, ih behind]

theorem eq_null_of_reread {v : Value} (read : v.reread? = some .null) : v = .null := by
  cases v with
  | null => rfl
  | number n =>
    obtain ⟨m, _, other⟩ := Option.map_eq_some_iff.mp read
    cases other
  | array items =>
    obtain ⟨again, _, other⟩ := Option.map_eq_some_iff.mp read
    cases other
  | object members =>
    obtain ⟨again, _, other⟩ := Option.map_eq_some_iff.mp read
    cases other
  | bool b => cases read
  | string s => cases read

mutual

theorem isCanonical_reread : (v w : Value) → v.reread? = some w → v.IsCanonical → w.IsCanonical
  | .number n, w, read, _ => by
    obtain ⟨m, _, rfl⟩ := Option.map_eq_some_iff.mp read
    trivial
  | .array items, w, read, canonical => by
    obtain ⟨again, inside, rfl⟩ := Option.map_eq_some_iff.mp read
    exact areCanonical_reread items again inside canonical
  | .object members, w, read, ⟨sorted, canonical⟩ => by
    obtain ⟨again, inside, rfl⟩ := Option.map_eq_some_iff.mp read
    refine ⟨?_, areCanonicalMembers_reread members again inside canonical⟩
    unfold Members.Sorted
    rw [names_rereadMembers? inside]
    exact sorted
  | .null, _, rfl, _ => trivial
  | .bool _, _, rfl, _ => trivial
  | .string _, _, rfl, _ => trivial

theorem areCanonical_reread : (items again : List Value) → rereadItems? items = some again →
    AreCanonical items → AreCanonical again
  | [], _, rfl, _ => trivial
  | v :: rest, again, read, ⟨first, others⟩ => by
    simp only [rereadItems?, Option.bind_eq_some_iff, Option.map_eq_some_iff] at read
    obtain ⟨w, here, behind, later, rfl⟩ := read
    exact ⟨isCanonical_reread v w here first, areCanonical_reread rest behind later others⟩

theorem areCanonicalMembers_reread : (members again : List (String × Value)) →
    rereadMembers? members = some again → Members.AreCanonical members →
    Members.AreCanonical again
  | [], _, rfl, _ => trivial
  | (_, v) :: rest, again, read, ⟨first, others⟩ => by
    simp only [rereadMembers?, Option.bind_eq_some_iff, Option.map_eq_some_iff] at read
    obtain ⟨w, here, behind, later, rfl⟩ := read
    exact ⟨isCanonical_reread v w here first, areCanonicalMembers_reread rest behind later others⟩

end

end Bindery.Json
