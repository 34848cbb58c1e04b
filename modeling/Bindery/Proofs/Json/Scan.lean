import Bindery.Proofs.Json.Number

/-! Written values in tokens. The text of a value is scanned into the tokens of what it is read as:
the value with every number replaced by what its own text reads as, if there is such a number. -/
namespace Bindery.Json

mutual

def Value.reread? : Value → Option Value
  | .number n => (Number.read? n.render.toList).map .number
  | .array items => (rereadItems? items).map .array
  | .object members => (rereadMembers? members).map .object
  | .null => some .null
  | .bool b => some (.bool b)
  | .string s => some (.string s)

def rereadItems? : List Value → Option (List Value)
  | [] => some []
  | v :: rest => v.reread?.bind fun w => (rereadItems? rest).map (w :: ·)

def rereadMembers? : List (String × Value) → Option (List (String × Value))
  | [] => some []
  | (name, v) :: rest => v.reread?.bind fun w => (rereadMembers? rest).map ((name, w) :: ·)

end

mutual

def Value.tokens : Value → List Token
  | .array items => .mark '[' :: ((itemTokens items).tail ++ [.mark ']'])
  | .object members => .mark '\x7b' :: ((memberTokens members).tail ++ [.mark '\x7d'])
  | .null => [.leaf .null]
  | .bool b => [.leaf (.bool b)]
  | .number n => [.leaf (.number n)]
  | .string s => [.leaf (.string s)]

def itemTokens : List Value → List Token
  | [] => []
  | v :: rest => .mark ',' :: (v.tokens ++ itemTokens rest)

def memberTokens : List (String × Value) → List Token
  | [] => []
  | (name, v) :: rest =>
    .mark ',' :: .leaf (.string name) :: .mark ':' :: (v.tokens ++ memberTokens rest)

end

/-! ## The text -/

theorem intercalate_eq_tail {α : Type} (separator : α) (parts : List (List α)) :
    [separator].intercalate parts = (parts.flatMap (separator :: ·)).tail := by
  cases parts with
  | nil => rfl
  | cons part parts =>
    induction parts generalizing part with
    | nil => simp
    | cons next parts ih => simp [List.intercalate_cons_cons, ih]

def itemsText : List Value → List Char
  | [] => []
  | v :: rest => ',' :: (v.render.toList ++ itemsText rest)

def membersText : List (String × Value) → List Char
  | [] => []
  | (name, v) :: rest =>
    ',' :: ((quote name).toList ++ ':' :: (v.render.toList ++ membersText rest))

theorem itemsText_eq (items : List Value) :
    ((renderItems items).map String.toList).flatMap (',' :: ·) = itemsText items := by
  induction items with
  | nil => rfl
  | cons v items ih => simp [renderItems, itemsText, ← ih]

theorem membersText_eq (members : List (String × Value)) :
    (((renderMembers members).map fun (name, text) => quote name ++ ":" ++ text).map
      String.toList).flatMap (',' :: ·) = membersText members := by
  induction members with
  | nil => rfl
  | cons member members ih =>
    obtain ⟨name, v⟩ := member
    simp [renderMembers, membersText, ← ih]

theorem toList_commaList (parts : List String) :
    (commaList parts).toList = ((parts.map String.toList).flatMap (',' :: ·)).tail := by
  rw [commaList, String.toList_intercalate]
  exact intercalate_eq_tail ',' _

theorem toList_render_array (items : List Value) :
    (Value.array items).render.toList = '[' :: ((itemsText items).tail ++ [']']) := by
  rw [← itemsText_eq]
  simp [Value.render, arrayText, toList_commaList]

theorem toList_render_object (members : List (String × Value)) :
    (Value.object members).render.toList = '\x7b' :: ((membersText members).tail ++ ['\x7d']) := by
  rw [← membersText_eq]
  simp [Value.render, objectText, toList_commaList]

theorem delimited_itemsText (items : List Value) {behind : List Char}
    (delimited : Delimited behind) : Delimited (itemsText items ++ behind) := by
  cases items with
  | nil => exact delimited
  | cons v items => exact delimited_cons _ rfl

theorem delimited_membersText (members : List (String × Value)) {behind : List Char}
    (delimited : Delimited behind) : Delimited (membersText members ++ behind) := by
  cases members with
  | nil => exact delimited
  | cons member members => exact delimited_cons _ rfl

theorem scanFrom?_name (seen : List Token) {word : List Char} {v : Value}
    (spells : word? word = some v) (some : word ≠ []) (bare : word.all isBare = true)
    {behind : List Char} (delimited : Delimited behind) :
    scanFrom? .gap seen (word ++ behind) = scanFrom? .gap (.leaf v :: seen) behind := by
  rw [scanFrom?_word seen some (List.all_eq_true.mp bare) delimited, spells]
  rfl

def Scans (v : Value) : Prop := ∀ seen behind, Delimited behind →
  scanFrom? .gap seen (v.render.toList ++ behind) =
    v.reread?.bind fun w => scanFrom? .gap (w.tokens.reverse ++ seen) behind

def ScansItems (items : List Value) : Prop := ∀ seen behind, Delimited behind →
  scanFrom? .gap seen ((itemsText items).tail ++ behind) =
    (rereadItems? items).bind fun ws => scanFrom? .gap ((itemTokens ws).tail.reverse ++ seen) behind

def ScansMembers (members : List (String × Value)) : Prop := ∀ seen behind, Delimited behind →
  scanFrom? .gap seen ((membersText members).tail ++ behind) =
    (rereadMembers? members).bind fun ws =>
      scanFrom? .gap ((memberTokens ws).tail.reverse ++ seen) behind

theorem ScansItems.behind {items : List Value} (scans : ScansItems items) (seen : List Token)
    {behind : List Char} (delimited : Delimited behind) :
    scanFrom? .gap seen (itemsText items ++ behind) =
      (rereadItems? items).bind fun ws =>
        scanFrom? .gap ((itemTokens ws).reverse ++ seen) behind := by
  cases items with
  | nil => rfl
  | cons v rest =>
    have inside := scans (.mark ',' :: seen) behind delimited
    rw [itemsText, List.tail_cons] at inside
    rw [itemsText, List.cons_append, scanFrom?_mark seen rfl, inside, rereadItems?]
    cases v.reread? with
    | none => rfl
    | some w =>
      cases rereadItems? rest with
      | none => rfl
      | some ws => simp [itemTokens]

theorem ScansMembers.behind {members : List (String × Value)} (scans : ScansMembers members)
    (seen : List Token) {behind : List Char} (delimited : Delimited behind) :
    scanFrom? .gap seen (membersText members ++ behind) =
      (rereadMembers? members).bind fun ws =>
        scanFrom? .gap ((memberTokens ws).reverse ++ seen) behind := by
  cases members with
  | nil => rfl
  | cons member rest =>
    obtain ⟨name, v⟩ := member
    have inside := scans (.mark ',' :: seen) behind delimited
    rw [membersText, List.tail_cons] at inside
    rw [membersText, List.cons_append, scanFrom?_mark seen rfl, inside, rereadMembers?]
    cases v.reread? with
    | none => rfl
    | some w =>
      cases rereadMembers? rest with
      | none => rfl
      | some ws => simp [memberTokens]

theorem scansItems_nil : ScansItems [] := fun _ _ _ => rfl

theorem scansMembers_nil : ScansMembers [] := fun _ _ _ => rfl

theorem scansItems_cons {v : Value} {rest : List Value} (first : Scans v)
    (others : ScansItems rest) : ScansItems (v :: rest) := by
  intro seen behind delimited
  rw [itemsText, List.tail_cons, List.append_assoc,
    first seen _ (delimited_itemsText rest delimited), rereadItems?]
  cases v.reread? with
  | none => rfl
  | some w =>
    simp only [Option.bind_some, others.behind _ delimited]
    cases rereadItems? rest with
    | none => rfl
    | some ws => simp [itemTokens]

theorem scansMembers_cons {name : String} {v : Value} {rest : List (String × Value)}
    (first : Scans v) (others : ScansMembers rest) : ScansMembers ((name, v) :: rest) := by
  intro seen behind delimited
  rw [membersText, List.tail_cons, List.append_assoc, scanFrom?_quote, List.cons_append,
    scanFrom?_mark _ rfl, List.append_assoc, first _ _ (delimited_membersText rest delimited),
    rereadMembers?]
  cases v.reread? with
  | none => rfl
  | some w =>
    simp only [Option.bind_some, others.behind _ delimited]
    cases rereadMembers? rest with
    | none => rfl
    | some ws => simp [memberTokens]

theorem scans_array {items : List Value} (scans : ScansItems items) : Scans (.array items) := by
  intro seen behind delimited
  rw [toList_render_array, List.cons_append, scanFrom?_mark seen rfl, List.append_assoc,
    List.singleton_append, scans _ _ (delimited_cons behind rfl), Value.reread?]
  cases rereadItems? items with
  | none => rfl
  | some ws =>
    simp only [Option.bind_some, Option.map_some]
    rw [scanFrom?_mark _ rfl]
    simp [Value.tokens]

theorem scans_object {members : List (String × Value)} (scans : ScansMembers members) :
    Scans (.object members) := by
  intro seen behind delimited
  rw [toList_render_object, List.cons_append, scanFrom?_mark seen rfl, List.append_assoc,
    List.singleton_append, scans _ _ (delimited_cons behind rfl), Value.reread?]
  cases rereadMembers? members with
  | none => rfl
  | some ws =>
    simp only [Option.bind_some, Option.map_some]
    rw [scanFrom?_mark _ rfl]
    simp [Value.tokens]

theorem scans_number (n : Number) : Scans (.number n) := by
  intro seen behind delimited
  rw [Value.render, scanFrom?_number seen n delimited, Value.reread?]
  cases Number.read? n.render.toList with
  | none => rfl
  | some m => rfl

theorem scans_bool (b : Bool) : Scans (.bool b) := by
  intro seen behind delimited
  cases b with
  | true => exact scanFrom?_name seen rfl (by decide) (by decide) delimited
  | false => exact scanFrom?_name seen rfl (by decide) (by decide) delimited

mutual

theorem scans : (v : Value) → Scans v
  | .null => fun seen _ delimited => scanFrom?_name seen rfl (by decide) (by decide) delimited
  | .bool b => scans_bool b
  | .number n => scans_number n
  | .string s => fun seen behind _ => scanFrom?_quote seen s behind
  | .array items => scans_array (scansItems items)
  | .object members => scans_object (scansMembers members)

theorem scansItems : (items : List Value) → ScansItems items
  | [] => scansItems_nil
  | v :: rest => scansItems_cons (scans v) (scansItems rest)

theorem scansMembers : (members : List (String × Value)) → ScansMembers members
  | [] => scansMembers_nil
  | (_, v) :: rest => scansMembers_cons (scans v) (scansMembers rest)

end

end Bindery.Json
