import Bindery.Json.Reader
import Bindery.Proofs.Json.Scan

/-! Written values are read back. Their tokens build them up again on the stack of the reader, if
the containers in them do not stand too deep. -/
namespace Bindery.Json

mutual

def Value.depth : Value → Nat
  | .array items => depthItems items + 1
  | .object members => depthMembers members + 1
  | .null => 0
  | .bool _ => 0
  | .number _ => 0
  | .string _ => 0

def depthItems : List Value → Nat
  | [] => 0
  | v :: rest => max v.depth (depthItems rest)

def depthMembers : List (String × Value) → Nat
  | [] => 0
  | (_, v) :: rest => max v.depth (depthMembers rest)

end

def Expected.IsValue (expected : Expected) : Prop := expected = .value ∨ expected = .item

def Expected.IsName (seen : List (String × Value)) (expected : Expected) : Prop :=
  expected = .member ∧ seen = [] ∨ expected = .name seen

/-- What comes of tokens that fit if the containers in them do not stand too deep. -/
def within (depth : Nat) (r : Reader) : Option Reader := if depth ≤ depthLimit then some r else none

def Builds (v : Value) : Prop := ∀ (stack : List Frame) (expected : Expected), expected.IsValue →
  stack.length ≤ depthLimit →
  v.tokens.foldlM Reader.step? ⟨stack, expected⟩ = within (stack.length + v.depth) ⟨stack, .next v⟩

def BuildsItems (items : List Value) : Prop := ∀ (stack : List Frame) (seen : List Value)
  (expected : Expected), expected.IsValue → items ≠ [] → stack.length < depthLimit →
  ((itemTokens items).tail ++ [Token.mark ']']).foldlM Reader.step?
      ⟨.array seen :: stack, expected⟩ =
    within (stack.length + 1 + depthItems items) ⟨stack, .next (.array (seen.reverse ++ items))⟩

def BuildsMembers (members : List (String × Value)) : Prop := ∀ (stack : List Frame)
  (frame seen : List (String × Value)) (name : String) (expected : Expected),
  expected.IsName seen → members ≠ [] → stack.length < depthLimit →
  ((memberTokens members).tail ++ [Token.mark '\x7d']).foldlM Reader.step?
      ⟨.object frame name :: stack, expected⟩ =
    within (stack.length + 1 + depthMembers members)
      ⟨stack, .next (.object (seen.reverse ++ members))⟩

theorem foldlM_within (a : Nat) {b : Nat} {r s : Reader} {tokens : List Token}
    (behind : tokens.foldlM Reader.step? r = within b s) :
    (within a r).bind (tokens.foldlM Reader.step?) = within (max a b) s := by
  unfold within at behind ⊢
  by_cases first : a ≤ depthLimit
  · rw [if_pos first, Option.bind_some, behind]
    by_cases second : b ≤ depthLimit
    · rw [if_pos second, if_pos (Nat.max_le.mpr ⟨first, second⟩)]
    · rw [if_neg second, if_neg fun both => second (Nat.max_le.mp both).2]
  · rw [if_neg first, if_neg fun both => first (Nat.max_le.mp both).1]
    rfl

/-! ## Leaves -/

theorem step?_of_isValue {stack : List Frame} {expected : Expected} (awaits : expected.IsValue)
    {token : Token} (opens : token ≠ .mark ']') :
    Reader.step? ⟨stack, expected⟩ token = Reader.value? ⟨stack, expected⟩ token := by
  rcases awaits with rfl | rfl
  · rfl
  · unfold Reader.step?
    split <;> simp_all

theorem builds_leaf {v : Value} (leaf : v.tokens = [.leaf v]) (flat : v.depth = 0) : Builds v := by
  intro stack expected awaits room
  rw [leaf, List.foldlM_cons, step?_of_isValue awaits (by simp), flat, within,
    if_pos (by simpa using room)]
  rfl

/-! ## Items -/

theorem BuildsItems.behind {rest : List Value} (builds : BuildsItems rest) (stack : List Frame)
    (seen : List Value) (v : Value) (room : stack.length < depthLimit) :
    (itemTokens rest ++ [Token.mark ']']).foldlM Reader.step? ⟨.array seen :: stack, .next v⟩ =
      within (stack.length + 1 + depthItems rest)
        ⟨stack, .next (.array ((v :: seen).reverse ++ rest))⟩ := by
  cases rest with
  | nil =>
    rw [depthItems, within, if_pos (by omega), List.append_nil]
    rfl
  | cons w rest =>
    have inside := builds stack (v :: seen) .value (.inl rfl) (List.cons_ne_nil w rest) room
    rw [itemTokens, List.tail_cons] at inside
    rw [itemTokens, List.cons_append, List.foldlM_cons]
    exact inside

theorem buildsItems_cons {v : Value} {rest : List Value} (first : Builds v)
    (others : BuildsItems rest) : BuildsItems (v :: rest) := by
  intro stack seen expected awaits _ room
  have value := first (.array seen :: stack) expected awaits room
  rw [itemTokens, List.tail_cons, List.append_assoc, List.foldlM_append, value]
  have both := foldlM_within (stack.length + 1 + v.depth)
    (others.behind stack seen v room)
  rw [Nat.add_max_add_left] at both
  simpa [depthItems] using both

theorem builds_array {items : List Value} (builds : BuildsItems items) :
    Builds (.array items) := by
  intro stack expected awaits room
  rw [Value.tokens, List.foldlM_cons, step?_of_isValue awaits (by simp)]
  by_cases deep : depthLimit ≤ stack.length
  · have full : Reader.value? ⟨stack, expected⟩ (.mark '[') = none := by
      simp [Reader.value?, Reader.begin?, deep]
    rw [full, within, if_neg (by rw [Value.depth]; omega)]
    rfl
  · have begun : Reader.value? ⟨stack, expected⟩ (.mark '[') =
        some ⟨.array [] :: stack, .item⟩ := by
      simp [Reader.value?, Reader.begin?, deep]
    rw [begun]
    cases items with
    | nil =>
      rw [Value.depth, depthItems, within, if_pos (by omega)]
      rfl
    | cons v rest =>
      have inside := builds stack [] .item (.inr rfl) (List.cons_ne_nil v rest) (by omega)
      rw [Value.depth, Nat.add_comm (depthItems _), ← Nat.add_assoc]
      exact inside

/-! ## Members -/

theorem BuildsMembers.behind {rest : List (String × Value)} (builds : BuildsMembers rest)
    (stack : List Frame) (seen : List (String × Value)) (name : String) (v : Value)
    (room : stack.length < depthLimit) :
    (memberTokens rest ++ [Token.mark '\x7d']).foldlM Reader.step?
        ⟨.object seen name :: stack, .next v⟩ =
      within (stack.length + 1 + depthMembers rest)
        ⟨stack, .next (.object (((name, v) :: seen).reverse ++ rest))⟩ := by
  cases rest with
  | nil =>
    rw [depthMembers, within, if_pos (by omega), List.append_nil]
    rfl
  | cons member rest =>
    obtain ⟨next, w⟩ := member
    have inside := builds stack ((name, v) :: seen) ((name, v) :: seen) name
      (.name ((name, v) :: seen)) (.inr rfl) (List.cons_ne_nil _ rest) room
    rw [memberTokens, List.tail_cons] at inside
    rw [memberTokens, List.cons_append, List.foldlM_cons]
    exact inside

theorem buildsMembers_cons {name : String} {v : Value} {rest : List (String × Value)}
    (first : Builds v) (others : BuildsMembers rest) : BuildsMembers ((name, v) :: rest) := by
  intro stack frame seen before expected awaits _ room
  have value := first (.object seen name :: stack) .value (.inl rfl) room
  have named : Reader.step? ⟨.object frame before :: stack, expected⟩ (.leaf (.string name)) =
      some ⟨.object frame before :: stack, .colon seen name⟩ := by
    rcases awaits with ⟨rfl, rfl⟩ | rfl
    · rfl
    · rfl
  have colon : Reader.step? ⟨.object frame before :: stack, .colon seen name⟩ (.mark ':') =
      some ⟨.object seen name :: stack, .value⟩ := rfl
  rw [memberTokens, List.tail_cons, List.cons_append, List.cons_append, List.foldlM_cons, named]
  simp only [Option.bind_eq_bind, Option.bind_some, List.foldlM_cons, colon, List.append_assoc,
    List.foldlM_append, value]
  have both := foldlM_within (stack.length + 1 + v.depth)
    (others.behind stack seen name v room)
  rw [Nat.add_max_add_left] at both
  simpa [depthMembers] using both

theorem builds_object {members : List (String × Value)} (builds : BuildsMembers members) :
    Builds (.object members) := by
  intro stack expected awaits room
  rw [Value.tokens, List.foldlM_cons, step?_of_isValue awaits (by simp)]
  by_cases deep : depthLimit ≤ stack.length
  · have full : Reader.value? ⟨stack, expected⟩ (.mark '\x7b') = none := by
      simp [Reader.value?, Reader.begin?, deep]
    rw [full, within, if_neg (by rw [Value.depth]; omega)]
    rfl
  · have begun : Reader.value? ⟨stack, expected⟩ (.mark '\x7b') =
        some ⟨.object [] "" :: stack, .member⟩ := by
      simp [Reader.value?, Reader.begin?, deep]
    rw [begun]
    cases members with
    | nil =>
      rw [Value.depth, depthMembers, within, if_pos (by omega)]
      rfl
    | cons member rest =>
      have inside := builds stack [] [] "" .member (.inl ⟨rfl, rfl⟩) (List.cons_ne_nil member rest)
        (by omega)
      rw [Value.depth, Nat.add_comm (depthMembers _), ← Nat.add_assoc]
      exact inside

mutual

theorem builds : (v : Value) → Builds v
  | .null => builds_leaf rfl rfl
  | .bool _ => builds_leaf rfl rfl
  | .number _ => builds_leaf rfl rfl
  | .string _ => builds_leaf rfl rfl
  | .array items => builds_array (buildsItems items)
  | .object members => builds_object (buildsMembers members)

theorem buildsItems : (items : List Value) → BuildsItems items
  | [] => fun _ _ _ _ some => absurd rfl some
  | v :: rest => buildsItems_cons (builds v) (buildsItems rest)

theorem buildsMembers : (members : List (String × Value)) → BuildsMembers members
  | [] => fun _ _ _ _ _ _ some => absurd rfl some
  | (_, v) :: rest => buildsMembers_cons (builds v) (buildsMembers rest)

end

/-- A written value with blanks behind it is read as the value that its numbers make, if its
containers do not stand too deep. -/
theorem read?_render (v : Value) {blanks : List Char} (blank : ∀ c ∈ blanks, isBlank c = true) :
    Value.read? (v.render.toList ++ blanks) =
      v.reread?.bind fun w => if w.depth ≤ depthLimit then some w else none := by
  have delimited : Delimited blanks := by
    intro c first
    rw [blank c (List.mem_of_mem_head? first)]
    rfl
  unfold Value.read? scan?
  rw [scans v [] blanks delimited]
  cases v.reread? with
  | none => rfl
  | some w =>
    have built := builds w [] .value (.inl rfl) (Nat.zero_le _)
    rw [List.length_nil, Nat.zero_add] at built
    simp only [Option.bind_some, List.append_nil, scanFrom?_blanks _ blank, List.reverse_reverse,
      Option.bind_eq_bind]
    rw [built]
    unfold within
    split
    · rfl
    · rfl

/-! ## Other text for a value -/

/-- Text that is scanned into the given tokens wherever it stands between others. -/
def ScansTo (text : String) (tokens : List Token) : Prop := ∀ seen behind,
  scanFrom? .gap seen (text.toList ++ behind) = scanFrom? .gap (tokens.reverse ++ seen) behind

theorem ScansTo.append {first second : String} {begun more : List Token}
    (scans : ScansTo first begun) (rest : ScansTo second more) :
    ScansTo (first ++ second) (begun ++ more) := by
  intro seen behind
  rw [String.toList_append, List.append_assoc, scans, rest, List.reverse_append, List.append_assoc]

theorem scansTo_quote (s : String) : ScansTo (quote s) [.leaf (.string s)] :=
  fun seen behind => scanFrom?_quote seen s behind

/-- Text that has the tokens of a value is read as the value, if its containers do not stand too
deep. -/
theorem ScansTo.read? {text : String} {v : Value} (scans : ScansTo text v.tokens)
    (shallow : v.depth ≤ depthLimit) : Value.read? text.toList = some v := by
  have scanned : scan? text.toList = some v.tokens := by
    have whole := scans [] []
    rw [List.append_nil, List.append_nil] at whole
    rw [scan?, whole, scanFrom?, List.reverse_reverse]
  have built := builds v [] .value (.inl rfl) (Nat.zero_le _)
  rw [List.length_nil, Nat.zero_add, within, if_pos shallow] at built
  unfold Value.read?
  rw [scanned]
  simp only [Option.bind_eq_bind, Option.bind_some, built]
  rfl

end Bindery.Json
