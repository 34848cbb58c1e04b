import Bindery.Json.Printer
import Bindery.Json.Token
import Bindery.Proofs.Text.Numeral

/-! Written JSON text in tokens. Strings and marks are scanned back wherever they stand; a bare word
only ends where a blank, a mark or the end of the text follows it. -/
namespace Bindery.Json

def Delimited (behind : List Char) : Prop := ∀ c ∈ behind.head?, (isBlank c || isMark c) = true

theorem delimited_cons {c : Char} (rest : List Char) (ends : (isBlank c || isMark c) = true) :
    Delimited (c :: rest) := by
  intro d member
  cases member
  exact ends

/-! ## Marks and blanks -/

theorem gapStep?_mark {c : Char} (mark : isMark c = true) :
    gapStep? c = some (.gap, some (.mark c)) := by
  have solid : isBlank c = false := by
    have one : c ∈ "[]\x7b\x7d:,".toList := by simpa [isMark] using mark
    have none : ("[]\x7b\x7d:,".toList.all fun d => !isBlank d) = true := by decide
    simpa using List.all_eq_true.mp none c one
  unfold gapStep?
  rw [solid, mark]
  rfl

theorem scanFrom?_mark (seen : List Token) {c : Char} (mark : isMark c = true) (rest : List Char) :
    scanFrom? .gap seen (c :: rest) = scanFrom? .gap (.mark c :: seen) rest := by
  simp [scanFrom?, Place.step?, gapStep?_mark mark]

theorem scanFrom?_blanks (seen : List Token) {blanks : List Char}
    (blank : ∀ c ∈ blanks, isBlank c = true) : scanFrom? .gap seen blanks = some seen.reverse := by
  induction blanks with
  | nil => rfl
  | cons c blanks ih =>
    obtain ⟨here, rest⟩ := List.forall_mem_cons.mp blank
    have step : gapStep? c = some (.gap, none) := by
      unfold gapStep?
      rw [here]
      rfl
    simpa [scanFrom?, Place.step?, step] using ih rest

/-! ## Words -/

def isBare (c : Char) : Bool := !(isBlank c || isMark c || c == '"')

theorem scanFrom?_bare (part : List Char) (seen : List Token) {word : List Char}
    (bare : ∀ c ∈ word, isBare c = true) (behind : List Char) :
    scanFrom? (.word part) seen (word ++ behind) =
      scanFrom? (.word (word.reverse ++ part)) seen behind := by
  induction word generalizing part with
  | nil => rfl
  | cons c word ih =>
    obtain ⟨here, rest⟩ := List.forall_mem_cons.mp bare
    have inside : (isBlank c || isMark c || c == '"') = false := by simpa [isBare] using here
    have step : (Place.word part).step? c = some (.word (c :: part), []) := by
      simp only [Place.step?, inside, Bool.false_eq_true, if_false]
    rw [List.cons_append, scanFrom?, step, List.reverse_cons, List.append_assoc]
    exact ih (c :: part) rest

theorem scanFrom?_delimited (part : List Char) (seen : List Token) {behind : List Char}
    (delimited : Delimited behind) :
    scanFrom? (.word part) seen behind =
      (word? part.reverse).bind fun v => scanFrom? .gap (.leaf v :: seen) behind := by
  cases behind with
  | nil =>
    cases value : word? part.reverse with
    | none => simp [scanFrom?, value]
    | some v => simp [scanFrom?, value]
  | cons c rest =>
    have ends : (isBlank c || isMark c || c == '"') = true := by
      rw [delimited c rfl]
      rfl
    cases value : word? part.reverse with
    | none => simp [scanFrom?, Place.step?, ends, value]
    | some v =>
      cases step : gapStep? c with
      | none => simp [scanFrom?, Place.step?, ends, value, step]
      | some found => simp [scanFrom?, Place.step?, ends, value, step]

theorem scanFrom?_word (seen : List Token) {word behind : List Char} (some : word ≠ [])
    (bare : ∀ c ∈ word, isBare c = true) (delimited : Delimited behind) :
    scanFrom? .gap seen (word ++ behind) =
      (word? word).bind fun v => scanFrom? .gap (.leaf v :: seen) behind := by
  cases word with
  | nil => exact absurd rfl some
  | cons c word =>
    obtain ⟨here, rest⟩ := List.forall_mem_cons.mp bare
    have step : gapStep? c = .some (.word [c], none) := by
      have inside : isBlank c = false ∧ isMark c = false ∧ c ≠ '"' := by
        simpa [isBare, and_assoc] using here
      unfold gapStep?
      rw [inside.1, inside.2.1, if_neg inside.2.2]
      rfl
    have begun : scanFrom? .gap seen (c :: word ++ behind) =
        scanFrom? (.word [c]) seen (word ++ behind) := by
      simp [scanFrom?, Place.step?, step]
    rw [begun, scanFrom?_bare [c] seen rest, scanFrom?_delimited _ seen delimited]
    simp

/-! ## Strings -/

theorem hexValue_hexDigit_toLower (n : Fin 16) : hexValue? (hexDigit n).toLower = some n.val := by
  revert n
  decide

theorem scanFrom?_control (part : List Char) (seen : List Token) {c : Char} (control : c < ' ')
    (rest : List Char) :
    scanFrom? (.string part none none) seen (['\\', 'u', '0', '0',
        (hexDigit (c.toNat / 16)).toLower, (hexDigit (c.toNat % 16)).toLower] ++ rest) =
      scanFrom? (.string (c :: part) none none) seen rest := by
  have small : c.toNat < 32 := control
  have high := hexValue_hexDigit_toLower ⟨c.toNat / 16, by omega⟩
  have low := hexValue_hexDigit_toLower ⟨c.toNat % 16, by omega⟩
  have zero : hexValue? '0' = some 0 := by decide
  have whole : 16 * (c.toNat / 16) + c.toNat % 16 = c.toNat := by omega
  have plane : unitPlace? part none c.toNat = some (.string (c :: part) none none) := by
    unfold unitPlace?
    simp only
    rw [if_neg (by omega), if_neg (by omega), Char.ofNat_toNat]
  simp only at high low
  simp [scanFrom?, Place.step?, zero, high, low, whole, plane]

theorem scanFrom?_escapeChar (part : List Char) (seen : List Token) (c : Char)
    (rest : List Char) :
    scanFrom? (.string part none none) seen (escapeChar c ++ rest) =
      scanFrom? (.string (c :: part) none none) seen rest := by
  unfold escapeChar
  iterate 7
    split
    · rename_i same
      subst same
      rfl
  split
  · rename_i control
    exact scanFrom?_control part seen control rest
  · rename_i quote backslash _ _ _ _ _ control
    simp [scanFrom?, Place.step?, quote, backslash, control]

theorem scanFrom?_escaped (part : List Char) (seen : List Token) (cs behind : List Char) :
    scanFrom? (.string part none none) seen (cs.flatMap escapeChar ++ '"' :: behind) =
      scanFrom? .gap (.leaf (.string (spell (part.reverse ++ cs))) :: seen) behind := by
  induction cs generalizing part with
  | nil => simp [scanFrom?, Place.step?]
  | cons c cs ih =>
    rw [List.flatMap_cons, List.append_assoc, scanFrom?_escapeChar, ih]
    simp

theorem scanFrom?_quote (seen : List Token) (s : String) (behind : List Char) :
    scanFrom? .gap seen ((quote s).toList ++ behind) =
      scanFrom? .gap (.leaf (.string s) :: seen) behind := by
  have form : (quote s).toList ++ behind =
      '"' :: (s.toList.flatMap escapeChar ++ '"' :: behind) := by
    simp [quote, spell]
  have begun : scanFrom? .gap seen ('"' :: (s.toList.flatMap escapeChar ++ '"' :: behind)) =
      scanFrom? (.string [] none none) seen (s.toList.flatMap escapeChar ++ '"' :: behind) := rfl
  rw [form, begun, scanFrom?_escaped]
  simp [spell]

end Bindery.Json
