import Bindery.Proofs.Json.Canonical
import Bindery.Proofs.Json.RoundTrip

/-! The depth of values. The reader keeps it below its limit in what it holds on its stack. Values
in canonical form and values that are read again are no deeper. -/
namespace Bindery.Json

theorem depthItems_le_iff (items : List Value) (n : Nat) :
    depthItems items ≤ n ↔ ∀ v ∈ items, v.depth ≤ n := by
  induction items with
  | nil => simp [depthItems]
  | cons v rest ih => rw [depthItems, Nat.max_le, ih, List.forall_mem_cons]

theorem depthMembers_le_iff (members : Members) (n : Nat) :
    depthMembers members ≤ n ↔ ∀ member ∈ members, member.2.depth ≤ n := by
  induction members with
  | nil => simp [depthMembers]
  | cons member rest ih => rw [depthMembers, Nat.max_le, ih, List.forall_mem_cons]

/-! ## Canonical form -/

mutual

theorem depth_canonical_le : (v : Value) → v.canonical.depth ≤ v.depth
  | .array items => Nat.add_le_add_right (depthItems_canonical_le items) 1
  | .object members => by
    refine Nat.add_le_add_right ((depthMembers_le_iff _ _).mpr fun member listed => ?_) 1
    have all := depthMembers_canonical_le members
    exact (depthMembers_le_iff _ _).mp all member (Members.mem_of_mem_sort listed)
  | .null => Nat.le_refl _
  | .bool _ => Nat.le_refl _
  | .number _ => Nat.le_refl _
  | .string _ => Nat.le_refl _

theorem depthItems_canonical_le : (items : List Value) →
    depthItems (canonicalItems items) ≤ depthItems items
  | [] => Nat.le_refl _
  | v :: rest => by
    have first := depth_canonical_le v
    have others := depthItems_canonical_le rest
    simp only [canonicalItems, depthItems]
    omega

theorem depthMembers_canonical_le : (members : List (String × Value)) →
    depthMembers (canonicalMembers members) ≤ depthMembers members
  | [] => Nat.le_refl _
  | (_, v) :: rest => by
    have first := depth_canonical_le v
    have others := depthMembers_canonical_le rest
    simp only [canonicalMembers, depthMembers]
    omega

end

/-! ## Values that are read again -/

mutual

theorem depth_reread : (v w : Value) → v.reread? = some w → w.depth = v.depth
  | .number _, _, read => by
    obtain ⟨m, _, rfl⟩ := Option.map_eq_some_iff.mp read
    rfl
  | .array items, _, read => by
    obtain ⟨again, inside, rfl⟩ := Option.map_eq_some_iff.mp read
    exact congrArg (· + 1) (depthItems_reread items again inside)
  | .object members, _, read => by
    obtain ⟨again, inside, rfl⟩ := Option.map_eq_some_iff.mp read
    exact congrArg (· + 1) (depthMembers_reread members again inside)
  | .null, _, rfl => rfl
  | .bool _, _, rfl => rfl
  | .string _, _, rfl => rfl

theorem depthItems_reread : (items again : List Value) → rereadItems? items = some again →
    depthItems again = depthItems items
  | [], _, rfl => rfl
  | v :: rest, again, read => by
    simp only [rereadItems?, Option.bind_eq_some_iff, Option.map_eq_some_iff] at read
    obtain ⟨w, here, behind, later, rfl⟩ := read
    rw [depthItems, depthItems, depth_reread v w here, depthItems_reread rest behind later]

theorem depthMembers_reread : (members again : List (String × Value)) →
    rereadMembers? members = some again → depthMembers again = depthMembers members
  | [], _, rfl => rfl
  | (_, v) :: rest, again, read => by
    simp only [rereadMembers?, Option.bind_eq_some_iff, Option.map_eq_some_iff] at read
    obtain ⟨w, here, behind, later, rfl⟩ := read
    rw [depthMembers, depthMembers, depth_reread v w here, depthMembers_reread rest behind later]

end

/-! ## Leaves of the scan -/

def Token.IsFlat : Token → Prop
  | .mark _ => True
  | .leaf v => v.depth = 0

theorem flat_of_word? {word : List Char} {v : Value} (spelled : word? word = some v) :
    v.depth = 0 := by
  unfold word? at spelled
  split at spelled
  · cases spelled
    rfl
  split at spelled
  · cases spelled
    rfl
  split at spelled
  · cases spelled
    rfl
  · obtain ⟨n, _, rfl⟩ := Option.map_eq_some_iff.mp spelled
    rfl

theorem flat_of_gapStep? {c : Char} {place : Place} {token : Option Token}
    (stepped : gapStep? c = some (place, token)) : ∀ t ∈ token, t.IsFlat := by
  unfold gapStep? at stepped
  split at stepped
  · cases stepped
    simp
  split at stepped
  · cases stepped
    intro t given
    cases given
    trivial
  split at stepped
  · cases stepped
    simp
  · cases stepped
    simp

theorem flat_of_step? {place next : Place} {c : Char} {tokens : List Token}
    (stepped : place.step? c = some (next, tokens)) : ∀ t ∈ tokens, t.IsFlat := by
  unfold Place.step? at stepped
  split at stepped
  · obtain ⟨⟨p, token⟩, gap, same⟩ := Option.map_eq_some_iff.mp stepped
    cases same
    simpa using flat_of_gapStep? gap
  · split at stepped
    · simp only [Option.bind_eq_bind, Option.bind_eq_some_iff] at stepped
      obtain ⟨v, spelled, ⟨p, token⟩, gap, same⟩ := stepped
      cases same
      exact List.forall_mem_cons.mpr ⟨flat_of_word? spelled, by simpa using flat_of_gapStep? gap⟩
    · cases stepped
      simp
  · split at stepped
    · cases stepped
      simp
    split at stepped
    · cases stepped
    split at stepped
    · cases stepped
      exact List.forall_mem_singleton.mpr rfl
    · cases stepped
      simp
  · split at stepped
    · cases stepped
      simp
    split at stepped
    · cases stepped
    · obtain ⟨e, _, same⟩ := Option.map_eq_some_iff.mp stepped
      cases same
      simp
  · simp only [Option.bind_eq_bind, Option.bind_eq_some_iff] at stepped
    obtain ⟨d, _, stepped⟩ := stepped
    split at stepped
    · cases stepped
      simp
    · obtain ⟨e, _, same⟩ := Option.map_eq_some_iff.mp stepped
      cases same
      simp

theorem flat_of_scanFrom? {text : List Char} {place : Place} {seen tokens : List Token}
    (scanned : scanFrom? place seen text = some tokens) (before : ∀ t ∈ seen, t.IsFlat) :
    ∀ t ∈ tokens, t.IsFlat := by
  induction text generalizing place seen with
  | nil =>
    cases place with
    | gap =>
      cases scanned
      simpa using before
    | word part =>
      obtain ⟨v, spelled, rfl⟩ := Option.map_eq_some_iff.mp scanned
      intro t listed
      rcases List.mem_cons.mp (List.mem_reverse.mp listed) with rfl | earlier
      · exact flat_of_word? spelled
      · exact before t earlier
    | string part high escape => cases scanned
  | cons c rest ih =>
    unfold scanFrom? at scanned
    split at scanned
    · rename_i next found stepped
      refine ih scanned fun t listed => ?_
      rcases List.mem_append.mp listed with new | earlier
      · exact flat_of_step? stepped t (List.mem_reverse.mp new)
      · exact before t earlier
    · cases scanned

/-! ## The stack of the reader -/

def Frame.depth : Frame → Nat
  | .array items => depthItems items
  | .object members _ => depthMembers members

def Expected.depth : Expected → Nat
  | .next v => v.depth
  | .name members => depthMembers members
  | .colon members _ => depthMembers members
  | .value => 0
  | .item => 0
  | .member => 0

def Fits : List Frame → Prop
  | [] => True
  | frame :: stack => stack.length + 1 + frame.depth ≤ depthLimit ∧ Fits stack

structure Reader.Fits (r : Reader) : Prop where
  held : Json.Fits r.stack
  read : r.stack.length + r.expected.depth ≤ depthLimit

theorem fits_begin? {r r' : Reader} {c : Char} (begun : r.begin? c = some r') (fits : r.Fits) :
    r'.Fits := by
  unfold Reader.begin? at begun
  split at begun
  · cases begun
  rename_i room
  split at begun
  · cases begun
    exact ⟨⟨Nat.lt_of_not_le room, fits.held⟩, Nat.lt_of_not_le room⟩
  · cases begun
    exact ⟨⟨Nat.lt_of_not_le room, fits.held⟩, Nat.lt_of_not_le room⟩

theorem fits_value? {r r' : Reader} {token : Token} (taken : r.value? token = some r')
    (flat : token.IsFlat) (fits : r.Fits) : r'.Fits := by
  unfold Reader.value? at taken
  split at taken
  · rename_i v
    cases taken
    have leaf : v.depth = 0 := flat
    refine ⟨fits.held, ?_⟩
    change r.stack.length + v.depth ≤ depthLimit
    rw [leaf]
    exact Nat.le_trans (Nat.le_add_right _ _) fits.read
  · split at taken
    · exact fits_begin? taken fits
    · cases taken

theorem depthItems_reverse (items : List Value) : depthItems items.reverse = depthItems items := by
  refine Nat.le_antisymm ((depthItems_le_iff _ _).mpr fun v listed => ?_)
    ((depthItems_le_iff _ _).mpr fun v listed => ?_)
  · exact (depthItems_le_iff _ _).mp (Nat.le_refl _) v (List.mem_reverse.mp listed)
  · exact (depthItems_le_iff _ _).mp (Nat.le_refl _) v (List.mem_reverse.mpr listed)

theorem depthMembers_reverse (members : Members) :
    depthMembers members.reverse = depthMembers members := by
  refine Nat.le_antisymm ((depthMembers_le_iff _ _).mpr fun m listed => ?_)
    ((depthMembers_le_iff _ _).mpr fun m listed => ?_)
  · exact (depthMembers_le_iff _ _).mp (Nat.le_refl _) m (List.mem_reverse.mp listed)
  · exact (depthMembers_le_iff _ _).mp (Nat.le_refl _) m (List.mem_reverse.mpr listed)

theorem le_joined {size a b : Nat} (held : size + 1 + a ≤ depthLimit)
    (read : size + 1 + b ≤ depthLimit) : size + 1 + max b a ≤ depthLimit := by
  omega

theorem fits_step? {r r' : Reader} {token : Token} (stepped : r.step? token = some r')
    (flat : token.IsFlat) (fits : r.Fits) : r'.Fits := by
  obtain ⟨stack, expected⟩ := r
  obtain ⟨held, read⟩ := fits
  unfold Reader.step? at stepped
  dsimp only at stepped held read
  split at stepped
  · exact fits_value? stepped flat ⟨held, read⟩
  · cases stepped
    exact ⟨held.2, Nat.le_trans (Nat.le_add_right _ _) held.1⟩
  · exact fits_value? stepped flat ⟨held, read⟩
  · cases stepped
    exact ⟨held.2, Nat.le_trans (Nat.le_add_right _ _) held.1⟩
  · cases stepped
    exact ⟨held, read⟩
  · cases stepped
    exact ⟨held, read⟩
  · cases stepped
    exact ⟨⟨read, held.2⟩, Nat.le_trans (Nat.le_add_right _ _) read⟩
  · cases stepped
    have joined := le_joined held.1 read
    exact ⟨⟨joined, held.2⟩, Nat.le_trans (Nat.le_add_right _ _) joined⟩
  · cases stepped
    refine ⟨held.2, ?_⟩
    dsimp only [Expected.depth, Value.depth]
    rw [depthItems_reverse, Nat.add_comm (depthItems _), ← Nat.add_assoc]
    exact le_joined held.1 read
  · cases stepped
    have joined := le_joined held.1 read
    exact ⟨⟨joined, held.2⟩, joined⟩
  · cases stepped
    refine ⟨held.2, ?_⟩
    dsimp only [Expected.depth, Value.depth]
    rw [depthMembers_reverse, Nat.add_comm (depthMembers _), ← Nat.add_assoc]
    exact le_joined held.1 read
  · cases stepped

theorem fits_foldlM {tokens : List Token} {r r' : Reader}
    (run : tokens.foldlM Reader.step? r = some r') (flat : ∀ t ∈ tokens, t.IsFlat)
    (fits : r.Fits) : r'.Fits := by
  induction tokens generalizing r with
  | nil =>
    cases run
    exact fits
  | cons token tokens ih =>
    obtain ⟨first, others⟩ := List.forall_mem_cons.mp flat
    rw [List.foldlM_cons] at run
    obtain ⟨next, stepped, rest⟩ := Option.bind_eq_some_iff.mp run
    exact ih rest others (fits_step? stepped first fits)

/-- No value that is read is deeper than the limit. -/
theorem depth_le_of_read? {text : List Char} {v : Value} (read : Value.read? text = some v) :
    v.depth ≤ depthLimit := by
  unfold Value.read? at read
  obtain ⟨tokens, scanned, read⟩ := Option.bind_eq_some_iff.mp read
  obtain ⟨r, run, finished⟩ := Option.bind_eq_some_iff.mp read
  have flat := flat_of_scanFrom? scanned (by simp)
  have fits := fits_foldlM run flat ⟨trivial, Nat.zero_le _⟩
  obtain ⟨stack, expected⟩ := r
  unfold Reader.finish? at finished
  split at finished
  · rename_i empty last
    cases finished
    have bound := fits.read
    rw [empty, last] at bound
    exact Nat.le_trans (Nat.le_add_left _ _) bound
  · cases finished

end Bindery.Json
