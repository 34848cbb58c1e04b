import Bindery.Proofs.Charset.Declaration

/-! Labels by offsets. A label can be sliced out of a document at numbers of octets: behind the
word, behind a quotation mark, in front of the next one. A slice is no text where its offset lies
beyond the text or inside a character. None that the searches for a label lead to does so, and the
label found is the one that stands in the document. -/
namespace Bindery.Charset

/-! ## Announcements by their parts -/

/-- An announcement each part of which is free of what ends it. -/
structure Announcement.Proper (a : Announcement) : Prop where
  first : ¬ "encoding".toList <:+: a.front.toList
  front : ¬ "?>".toList <:+: a.front.toList
  left : ∀ c ∈ a.left.toList, isBlank c = true
  right : ∀ c ∈ a.right.toList, isBlank c = true
  quote : a.quote = '"' ∨ a.quote = '\''
  closed : a.quote ∉ a.label.toList
  label : ¬ "?>".toList <:+: a.label.toList
  back : ¬ "?>".toList <:+: a.back.toList

/-- What stands between two parts is in no end mark, so that none reaches over it. -/
theorem Announcement.unended_iff {a : Announcement} (left : ∀ c ∈ a.left.toList, isBlank c = true)
    (right : ∀ c ∈ a.right.toList, isBlank c = true) (quote : a.quote = '"' ∨ a.quote = '\'') :
    ¬ "?>".toList <:+: a.text.toList ↔ ¬ "?>".toList <:+: a.front.toList ∧
      ¬ "?>".toList <:+: a.label.toList ∧ ¬ "?>".toList <:+: a.back.toList := by
  have parts : a.text.toList = "<?xm".toList ++ 'l' :: (a.front.toList ++ 'e' ::
      ("ncoding".toList ++ a.left.toList ++ '=' :: (a.right.toList ++ a.quote ::
        (a.label.toList ++ a.quote :: a.back.toList)))) := by
    rw [toList_text, List.append_assoc, List.append_assoc]
    rfl
  have apart : a.quote ∉ "?>".toList := by
    rcases quote with same | same <;> rw [same] <;> decide
  have mark : isBlank '?' = false := by decide
  have before : ¬ "?>".toList <:+: "<?xm".toList := by decide
  have key : ¬ "?>".toList <:+: "ncoding".toList ++ a.left.toList := by
    intro within
    have member : '?' ∈ "ncoding".toList ++ a.left.toList := within.subset (by decide)
    rcases List.mem_append.mp member with letter | blank
    · exact absurd letter (by decide)
    · exact absurd (left _ blank) (by rw [mark]; decide)
  have gap : ¬ "?>".toList <:+: a.right.toList := by
    intro within
    have member : '?' ∈ a.right.toList := within.subset (by decide)
    exact absurd (right _ member) (by rw [mark]; decide)
  rw [parts, infix_append_cons_iff (by decide), infix_append_cons_iff (by decide),
    infix_append_cons_iff (by decide), infix_append_cons_iff apart, infix_append_cons_iff apart]
  simp only [before, key, gap, false_or, not_or]

theorem Announcement.proper_iff {a : Announcement} : a.Proper ↔ a.WellFormed := by
  constructor
  · rintro ⟨first, front, left, right, quote, closed, label, back⟩
    have unended := (unended_iff left right quote).mpr ⟨front, label, back⟩
    exact ⟨first, left, right, quote, closed, unended⟩
  · rintro ⟨first, left, right, quote, closed, unended⟩
    obtain ⟨front, label, back⟩ := (unended_iff left right quote).mp unended
    exact ⟨first, front, left, right, quote, closed, label, back⟩

/-! ## Slices -/

/-- Why there is no slice at an offset. -/
inductive CutFault where
  | outOfRange
  | insideCharacter
deriving DecidableEq, Repr

def cutOctets (bytes : Bytes) (offset : Nat) : Except CutFault (Bytes × Bytes) :=
  if offset ≤ bytes.length then .ok (bytes.take offset, bytes.drop offset)
  else .error .outOfRange

def cutText (text : String) (offset : Nat) : Except CutFault (String × String) := do
  let (front, back) ← cutOctets (utf8Bytes text) offset
  match utf8Text? front, utf8Text? back with
  | some front, some back => .ok (front, back)
  | _, _ => .error .insideCharacter

def offsetOf? (needle hay : Bytes) : Option Nat := (cut? needle hay).map fun parts => parts.1.length

theorem cutOctets_append (front back : Bytes) :
    cutOctets (front ++ back) front.length = .ok (front, back) := by
  rw [cutOctets, if_pos (by simp), List.take_left, List.drop_left]

theorem cutText_append (front back : String) :
    cutText (front ++ back) (utf8Bytes front).length = .ok (front, back) := by
  rw [cutText, utf8Bytes_append, cutOctets_append]
  simp only [bind, Except.bind, utf8Text?_utf8Bytes]

/-! ## Labels by slices -/

def valueBySlices (afterEquals : String) : Except CutFault (Option String) :=
  match afterEquals.toList.head? with
  | some quote =>
    if quote = '"' ∨ quote = '\'' then do
      let (_, value) ← cutText afterEquals 1
      match offsetOf? (utf8Bytes (String.singleton quote)) (utf8Bytes value) with
      | some close => do
        let (label, _) ← cutText value close
        return some label
      | none => return none
    else return none
  | none => return none

def quotedBySlices (afterKey : String) : Except CutFault (Option String) :=
  match trimStart isBlank afterKey.toList with
  | '=' :: behind => valueBySlices (spell (trimStart isBlank behind))
  | _ => return none

def declaredInBySlices (text : String) : Except CutFault (Option String) :=
  match offsetOf? (utf8Bytes "encoding") (utf8Bytes text) with
  | some key => do
    let (_, afterKey) ← cutText text (key + (utf8Bytes "encoding").length)
    quotedBySlices afterKey
  | none => return none

def declaredBySlices (bytes : Bytes) : Except CutFault (Option String) :=
  if (utf8Bytes "<?xml").isPrefixOf bytes then
    match offsetOf? (utf8Bytes "?>") bytes with
    | some stop => do
      let (head, _) ← cutOctets bytes stop
      match utf8Text? head with
      | some text => declaredInBySlices text
      | none => return none
    | none => return none
  else return none

theorem offsetOf?_quote {quote : Char} (mark : quote = '"' ∨ quote = '\'') (value : List Char) :
    offsetOf? (utf8Bytes (String.singleton quote)) (utf8Bytes (spell value)) =
      (cut? [quote] value).map fun parts => (utf8Bytes (spell parts.1)).length := by
  have single : (String.singleton quote).toList = [quote] := String.toList_singleton quote
  have spelled : (spell value).toList = value := String.toList_ofList
  have ascii : IsAscii (String.singleton quote).toList := by
    rcases mark with rfl | rfl <;> decide
  have octet : Borderless (utf8Bytes (String.singleton quote)) := by
    rcases mark with rfl | rfl <;> decide
  have searched := cut?_utf8Bytes ascii (single ▸ borderless_singleton quote) octet
    (single ▸ List.cons_ne_nil _ _) (spell value)
  rw [single, spelled] at searched
  rw [offsetOf?, searched, Option.map_map]
  rfl

theorem valueBySlices_cons {quote : Char} (value : List Char) :
    valueBySlices (spell (quote :: value)) = .ok (if quote = '"' ∨ quote = '\'' then
      (cut? [quote] value).map fun parts => spell parts.1 else none) := by
  have read : (spell (quote :: value)).toList.head? = some quote := by simp [spell]
  by_cases mark : quote = '"' ∨ quote = '\''
  · have letters : spell (quote :: value) = String.singleton quote ++ spell value := by
      rw [← String.toList_inj]
      simp [spell]
    have one : (utf8Bytes (String.singleton quote)).length = 1 := by
      rcases mark with rfl | rfl <;> rfl
    have first := cutText_append (String.singleton quote) (spell value)
    rw [one, ← letters] at first
    simp only [valueBySlices, read, if_pos mark, first, bind, Except.bind]
    rw [offsetOf?_quote mark]
    cases found : cut? [quote] value with
    | none => rfl
    | some parts =>
      obtain ⟨label, back⟩ := parts
      obtain ⟨rfl, -⟩ :=
        (cut?_eq_some_iff (borderless_singleton quote) (List.cons_ne_nil _ _)).mp found
      have second := cutText_append (spell label) (spell ([quote] ++ back))
      rw [← spell_append] at second
      simp only [Option.map_some, second]
      rfl
  · simp only [valueBySlices, read, if_neg mark]
    rfl

theorem quotedBySlices_eq (afterKey : String) :
    quotedBySlices afterKey = .ok (quoted? afterKey.toList) := by
  unfold quotedBySlices quoted?
  generalize trimStart isBlank afterKey.toList = trimmed
  cases trimmed with
  | nil => rfl
  | cons c behind =>
    by_cases equals : c = '='
    · subst equals
      simp only []
      cases trimStart isBlank behind with
      | nil => rfl
      | cons quote value => exact valueBySlices_cons value
    · simp only [List.cons.injEq, equals, false_and, imp_self, implies_true]
      rfl

theorem declaredInBySlices_eq (text : String) :
    declaredInBySlices text = .ok (declaredIn? text.toList) := by
  have searched := @cut?_utf8Bytes "encoding" (by decide) (by decide) (by decide) (by decide) text
  rw [declaredInBySlices, offsetOf?, searched, declaredIn?_eq]
  cases found : cut? "encoding".toList text.toList with
  | none => rfl
  | some parts =>
    obtain ⟨front, afterKey⟩ := parts
    obtain ⟨same, -⟩ := (cut?_eq_some_iff (by decide) (by decide)).mp found
    have letters : text = (spell front ++ "encoding") ++ spell afterKey := by
      rw [← String.toList_inj, same]
      simp [spell]
    have cut := cutText_append (spell front ++ "encoding") (spell afterKey)
    rw [← letters, utf8Bytes_append, List.length_append] at cut
    have spelled : (spell afterKey).toList = afterKey := String.toList_ofList
    simp only [Option.map_some, cut, bind, Except.bind, quotedBySlices_eq, spelled,
      Option.bind_some]

theorem declaredBySlices_eq (bytes : Bytes) : declaredBySlices bytes = .ok (declared? bytes) := by
  unfold declaredBySlices declared?
  split
  · cases found : cut? (utf8Bytes "?>") bytes with
    | none =>
      simp only [offsetOf?, found]
      rfl
    | some parts =>
      obtain ⟨head, rest⟩ := parts
      obtain ⟨rfl, -⟩ := (cut?_eq_some_iff (by decide) (by decide)).mp found
      simp only [offsetOf?, found, Option.map_some, cutOctets_append]
      cases read : utf8Text? head with
      | none =>
        simp only [bind, Except.bind, Option.bind_some, read]
        rfl
      | some text => simp only [bind, Except.bind, Option.bind_some, read, declaredInBySlices_eq]
  · rfl

/-- The label of an announcement is found, whatever octets come behind it. No slice on the way to a
label fails, whatever the document is. -/
theorem declared_label_found :
    (∀ (a : Announcement) (rest : Bytes), a.Proper →
      declared? (utf8Bytes (a.text ++ "?>") ++ rest) = some a.label) ∧
    ∀ bytes, declaredBySlices bytes = .ok (declared? bytes) := by
  refine ⟨?_, declaredBySlices_eq⟩
  intro a rest proper
  apply declared?_eq_some_iff.mpr
  exact ⟨a, Announcement.proper_iff.mp proper, rfl, List.prefix_append _ rest⟩

/-- An announcement with the marks of its ends at other places, each of them alone, and with blanks
and letters that take more than one octet. -/
def strayMarks : Announcement where
  front := " é='?' v=\">\" ?"
  left := "\u3000 "
  right := "\u00a0"
  quote := '\''
  label := ">utf-8\"?"
  back := "?"

theorem declared_label_found_strayMarks : strayMarks.Proper ∧
    declared? (utf8Bytes (strayMarks.text ++ "?>") ++ [0xFF, 0x3F, 0x3E]) = some ">utf-8\"?" := by
  have proper : strayMarks.Proper := {
    first := by decide
    front := by decide
    left := List.all_eq_true.mp (by decide)
    right := List.all_eq_true.mp (by decide)
    quote := by decide
    closed := by decide
    label := by decide
    back := by decide }
  exact ⟨proper, declared_label_found.1 strayMarks [0xFF, 0x3F, 0x3E] proper⟩

end Bindery.Charset
