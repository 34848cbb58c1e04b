import Bindery.Proofs.Toml.Quoted
import Bindery.Settings

/-! Settings are read back as they were written. Each line is scanned as a key, an equals sign and
a string, and adds one entry to the tables read so far; what the strings hold makes no
difference. -/
namespace Bindery

namespace Toml

/-! ## Lines -/

theorem endsWord_of_isKeyChar {c : Char} (ordinary : isKeyChar c = true) : endsWord c = false := by
  apply Bool.eq_false_iff.mpr
  intro ends
  have enders : c ∈ [' ', '\t', '.', '=', ',', '[', ']', '\x7b', '\x7d', '\n', '\r', '#', '"', '\''] := by
    simpa [endsWord, isBlank, isMark, or_assoc] using ends
  have apart : [' ', '\t', '.', '=', ',', '[', ']', '\x7b', '\x7d', '\n', '\r', '#', '"',
      '\''].all (! isKeyChar ·) = true := by decide
  have other := List.all_eq_true.mp apart c enders
  rw [ordinary] at other
  cases other

def IsKey (key : List Char) : Prop := key ≠ [] ∧ key.all isKeyChar = true

instance (key : List Char) : Decidable (IsKey key) := inferInstanceAs (Decidable (_ ∧ _))

theorem takes_word (part : List Char) {cs : List Char} (ordinary : cs.all isKeyChar = true) :
    Takes (.word part) cs [] (.word (cs.reverse ++ part)) := by
  induction cs generalizing part with
  | nil => exact takes_nil _
  | cons c cs ih =>
    obtain ⟨here, later⟩ := Bool.and_eq_true_iff.mp ordinary
    have step : (Place.word part).step? c = some (.word (c :: part), []) := by
      simp [Place.step?, endsWord_of_isKeyChar here]
    rw [List.reverse_cons, List.append_assoc]
    exact Takes.cons step (ih (c :: part) later)

def lineTokens (key : List Char) (long : Bool) (value : List Char) : List Token :=
  [.word key, .blank [' '], .mark '=', .blank [' '], .text long value, .mark '\n']

theorem takes_key {key : List Char} (ordinary : IsKey key) :
    Takes .gap (key ++ [' ', '=', ' ']) [.word key, .blank [' '], .mark '='] (.blanks [' ']) := by
  obtain ⟨some, all⟩ := ordinary
  cases key with
  | nil => exact absurd rfl some
  | cons c key =>
    obtain ⟨here, later⟩ := Bool.and_eq_true_iff.mp all
    have start : Place.gap.step? c = .some (.word [c], []) := by
      have apart := endsWord_of_isKeyChar here
      simp only [endsWord, Bool.or_eq_false_iff, beq_eq_false_iff_ne] at apart
      simp [Place.step?, gapStep?, apart]
    have equals : Takes (.word (key.reverse ++ [c])) [' ', '=', ' ']
        [.word (c :: key), .blank [' '], .mark '='] (.blanks [' ']) := by
      intro seen rest
      have word : (key.reverse ++ [c]).reverse = c :: key := by simp
      rw [← word]
      rfl
    exact Takes.cons start ((takes_word [c] later).append equals)

end Toml

namespace Settings

open Toml

theorem toList_line (key value : String) :
    (line key value).toList = key.toList ++ [' ', '=', ' '] ++ (quoted value.toList ++ ['\n']) := by
  simp [line, spell]

theorem takes_line {key : String} (ordinary : IsKey key.toList) (value : String) : ∃ long,
    Takes .gap (line key value).toList (lineTokens key.toList long value.toList) .gap := by
  obtain ⟨quote, long, rest, mark, form, through⟩ := takes_quoted value.toList
  have opens : (Place.blanks [' ']).step? quote = some (.opened quote, [.blank [' ']]) := by
    rcases mark with rfl | rfl <;> rfl
  rw [toList_line, form]
  exact ⟨long, (takes_key ordinary).append (Takes.cons opens through)⟩

theorem foldlM_line {key : String} (ordinary : IsKey key.toList) (long : Bool) (value : String)
    {root : Entries} (fresh : root.get? key = none) :
    (lineTokens key.toList long value.toList).foldlM Reader.step? { root } =
      some { root := root ++ [(key, .text value)] } := by
  have extended : extend? [] (.word key.toList) = some [key] := by
    simp [extend?, partLimit, keyPart?, ordinary.2, spell]
  have added : Entries.assign? [key] (.text value) root = some (root ++ [(key, .text value)]) := by
    simp [Entries.assign?, Entries.change?, Entries.add?, fresh]
  have word : Reader.step? { root } (.word key.toList) =
      some { root, expected := .keyNext [key] } := by
    change (extend? [] (.word key.toList)).map _ = _
    rw [extended]
    rfl
  have string : Reader.step? { root, stack := [.entry [key]], expected := .value }
      (.text long value.toList) =
      some { root := root ++ [(key, .text value)], expected := .lineEnd } := by
    change (Entries.assign? [key] (.text (spell value.toList)) root).bind _ = _
    rw [spell, String.ofList_toList, added]
    rfl
  rw [lineTokens, List.foldlM_cons, word]
  change ((Reader.step? { root, stack := [.entry [key]], expected := .value }
    (.text long value.toList)).bind _) = _
  rw [string]
  rfl

theorem get?_concat {root : Entries} {key other : String} {node : Node}
    (fresh : root.get? key = none) (apart : other ≠ key) :
    Entries.get? (root ++ [(other, node)]) key = none := by
  unfold Entries.get? at fresh ⊢
  rw [List.find?_append, Option.map_eq_none_iff.mp fresh]
  simp [apart]

/-- Lines with keys that are new add their entries one after the other. By induction on the lines;
the entries in front of them grow. -/
theorem takes_lines {items : List (String × String)} (ordinary : ∀ item ∈ items, IsKey item.1.toList)
    (distinct : (items.map Prod.fst).Nodup) {root : Entries}
    (fresh : ∀ item ∈ items, root.get? item.1 = none) : ∃ tokens,
    Takes .gap (items.flatMap fun item => (line item.1 item.2).toList) tokens .gap ∧
      tokens.foldlM Reader.step? { root } =
        some { root := root ++ items.map fun item => (item.1, .text item.2) } := by
  induction items generalizing root with
  | nil => exact ⟨[], takes_nil _, by rw [List.map_nil, List.append_nil]; rfl⟩
  | cons item items ih =>
    obtain ⟨key, value⟩ := item
    rw [List.map_cons, List.nodup_cons] at distinct
    have here := ordinary (key, value) List.mem_cons_self
    obtain ⟨long, first⟩ := takes_line here value
    have added := foldlM_line here long value (fresh (key, value) List.mem_cons_self)
    have later (item : String × String) (member : item ∈ items) :
        Entries.get? (root ++ [(key, .text value)]) item.1 = none := by
      refine get?_concat (fresh item (List.mem_cons_of_mem _ member)) ?_
      rintro rfl
      exact distinct.1 (List.mem_map.mpr ⟨item, member, rfl⟩)
    obtain ⟨tokens, rest, read⟩ :=
      ih (fun item member => ordinary item (List.mem_cons_of_mem _ member)) distinct.2 later
    refine ⟨_, first.append rest, ?_⟩
    rw [List.foldlM_append, added]
    simpa using read

theorem scan?_of_takes {text : List Char} {tokens : List Token} (takes : Takes .gap text tokens .gap)
    (unmarked : text.head? ≠ some '\ufeff') : scan? text = some tokens := by
  have through := takes [] []
  rw [List.append_nil, List.append_nil] at through
  have scanned : scan? text = scanFrom? .gap [] text := by
    unfold scan?
    split
    · exact absurd rfl unmarked
    · rfl
  rw [scanned, through]
  simp [scanFrom?, Place.finish?]

def items (s : Settings) : List (String × String) := [
  ("unmatched_mark", s.unmatched.name), ("encryption_scheme", s.scheme),
  ("content_key_uri", s.keyUri), ("content_key_type", s.keyType)]

def entries (s : Settings) : Entries := s.items.map fun item => (item.1, .text item.2)

theorem read?_render (s : Settings) : Toml.read? s.render.toList = some s.entries := by
  have form : s.render.toList = s.items.flatMap fun item => (line item.1 item.2).toList := by
    simp [render, items]
  have keys : (s.items.map Prod.fst).all (fun key => decide (IsKey key.toList)) = true := by
    change ["unmatched_mark", "encryption_scheme", "content_key_uri", "content_key_type"].all _ = _
    decide
  have distinct : (s.items.map Prod.fst).Nodup := by
    change ["unmatched_mark", "encryption_scheme", "content_key_uri", "content_key_type"].Nodup
    decide
  have ordinary (item : String × String) (member : item ∈ s.items) : IsKey item.1.toList :=
    of_decide_eq_true (List.all_eq_true.mp keys item.1 (List.mem_map_of_mem member))
  have fresh : ∀ item ∈ s.items, Entries.get? [] item.1 = none := fun _ _ => rfl
  obtain ⟨tokens, takes, read⟩ := takes_lines ordinary distinct fresh
  rw [← form] at takes
  have unmarked : s.render.toList.head? ≠ some '\ufeff' := by
    have first : s.render.toList.head? = "unmatched_mark".toList.head? := by
      rw [form, items, List.flatMap_cons, toList_line]
      simp
    rw [first]
    decide
  rw [read?, scan?_of_takes takes unmarked]
  simp only [Option.bind_eq_bind, Option.bind_some, read]
  rfl

theorem policyOf_name (policy : UnmatchedPolicy) : policyOf (.text policy.name) = .ok policy := by
  cases policy <;> rfl

theorem textOf_text {entries : Entries} {key value : String}
    (found : entries.get? key = some (.text value)) (default : String) :
    textOf entries key default = .ok value := by
  rw [textOf, found]

/-- Settings are written as a text of which the same settings are read, also from a file. -/
theorem read_rendered (s : Settings) :
    read s.render = .ok s ∧ ofContent (some (utf8Bytes s.render)) = .ok s := by
  have back : read s.render = .ok s := by
    have mark : s.entries.get? "unmatched_mark" = some (.text s.unmatched.name) := rfl
    have scheme (default : String) : textOf s.entries "encryption_scheme" default = .ok s.scheme :=
      textOf_text rfl default
    have keyUri (default : String) : textOf s.entries "content_key_uri" default = .ok s.keyUri :=
      textOf_text rfl default
    have keyType (default : String) : textOf s.entries "content_key_type" default = .ok s.keyType :=
      textOf_text rfl default
    unfold read
    rw [read?_render]
    simp only [mark, policyOf_name, scheme, keyUri, keyType]
    rfl
  refine ⟨back, ?_⟩
  rw [ofContent, Option.bind_some, utf8Text?_utf8Bytes]
  exact back

end Settings
end Bindery
