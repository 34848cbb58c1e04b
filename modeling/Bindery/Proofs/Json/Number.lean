import Bindery.Json.Number
import Bindery.Proofs.Json.Token

/-! Written numbers are bare words, and are scanned back to what reading them yields. Of doubles no
more than their characters is looked at. -/
namespace Bindery.Json

def isNumeric (c : Char) : Bool := c.isDigit || "+-.e".toList.contains c

def Numeric (text : List Char) : Prop := text ≠ [] ∧ ∀ c ∈ text, isNumeric c = true

theorem isNumeric_of_isDigit {c : Char} (digit : c.isDigit = true) : isNumeric c = true := by
  unfold isNumeric
  rw [digit]
  rfl

theorem numeric_toDigits (n : Nat) : Numeric (Nat.toDigits 10 n) :=
  ⟨Nat.toDigits_ne_nil, fun c member => isNumeric_of_isDigit (isDigit_toDigits n c member)⟩

theorem Numeric.append {s t : List Char} (first : Numeric s)
    (rest : ∀ c ∈ t, isNumeric c = true) : Numeric (s ++ t) := by
  refine ⟨fun empty => first.1 (List.append_eq_nil_iff.mp empty).1, fun c member => ?_⟩
  rcases List.mem_append.mp member with left | right
  · exact first.2 c left
  · exact rest c right

theorem Numeric.cons {c : Char} {s : List Char} (numeric : isNumeric c = true)
    (rest : ∀ d ∈ s, isNumeric d = true) : Numeric (c :: s) :=
  ⟨List.cons_ne_nil c s, List.forall_mem_cons.mpr ⟨numeric, rest⟩⟩

theorem numeric_of_all {text : List Char} (some : text ≠ []) (all : text.all isNumeric = true) :
    Numeric text :=
  ⟨some, List.all_eq_true.mp all⟩

namespace Number

theorem isNumeric_replicate (n : Nat) : ∀ c ∈ List.replicate n '0', isNumeric c = true := by
  intro c member
  rw [List.eq_of_mem_replicate member]
  decide

theorem isNumeric_mantissa {digits : List Char} (numeric : ∀ c ∈ digits, isNumeric c = true) :
    ∀ c ∈ (match digits with
      | [d] => [d]
      | d :: rest => d :: '.' :: rest
      | [] => []), isNumeric c = true := by
  split
  · exact numeric
  · obtain ⟨first, rest⟩ := List.forall_mem_cons.mp numeric
    exact List.forall_mem_cons.mpr ⟨first, List.forall_mem_cons.mpr ⟨by decide, rest⟩⟩
  · exact numeric

theorem numeric_positional (s : Decimal.Scaled) : Numeric (positional s).toList := by
  obtain ⟨some, digits⟩ := numeric_toDigits s.digits
  unfold positional
  simp only [String.toList_ofList]
  split
  · refine (Numeric.append ⟨some, digits⟩ (isNumeric_replicate _)).append ?_
    exact List.all_eq_true.mp (by decide)
  split
  · refine ⟨by simp, fun c member => ?_⟩
    rcases List.mem_append.mp member with before | behind
    · exact digits c (List.mem_of_mem_take before)
    rcases List.mem_cons.mp behind with rfl | behind
    · decide
    · exact digits c (List.mem_of_mem_drop behind)
  split
  · have start : Numeric "0.".toList := numeric_of_all (by decide) (by decide)
    exact (start.append (isNumeric_replicate _)).append digits
  · refine ⟨by simp, fun c member => ?_⟩
    rcases List.mem_append.mp member with mantissa | behind
    · exact isNumeric_mantissa digits c mantissa
    rcases List.mem_cons.mp behind with rfl | behind
    · decide
    rcases List.mem_cons.mp behind with rfl | behind
    · split
      · decide
      · decide
    · exact (numeric_toDigits _).2 c behind

theorem numeric_floatText (x : Float) : Numeric (floatText x).toList := by
  unfold floatText
  simp only [String.toList_append]
  have unsigned (size : Nat) : Numeric (if size = 0 then "0.0"
      else positional (Decimal.Interval.ofBits size).shortest).toList := by
    split
    · exact numeric_of_all (by decide) (by decide)
    · exact numeric_positional _
  split
  · have sign : Numeric "-".toList := numeric_of_all (by decide) (by decide)
    exact sign.append (unsigned _).2
  · exact unsigned _

theorem toList_render_ofNat (m : Nat) :
    (render (.integer (.ofNat m))).toList = Nat.toDigits 10 m :=
  Nat.toList_repr

theorem toList_render_negSucc (m : Nat) :
    (render (.integer (.negSucc m))).toList = '-' :: Nat.toDigits 10 (m + 1) := by
  simp [render, toString, Int.repr]

theorem numeric_render (n : Number) : Numeric n.render.toList := by
  cases n with
  | float x => exact numeric_floatText x
  | integer n =>
    cases n with
    | ofNat m =>
      rw [toList_render_ofNat]
      exact numeric_toDigits m
    | negSucc m =>
      rw [toList_render_negSucc]
      exact Numeric.cons (by decide) (numeric_toDigits _).2

end Number

theorem isBare_of_isNumeric {c : Char} (numeric : isNumeric c = true) : isBare c = true := by
  rcases Bool.or_eq_true_iff.mp numeric with digit | mark
  · exact of_isDigit (isBare · = true) (by decide) digit
  · have one : c ∈ "+-.e".toList := by simpa using mark
    exact List.all_eq_true.mp (by decide : ("+-.e".toList.all isBare) = true) c one

theorem word?_numeric {text : List Char} (numeric : Numeric text) :
    word? text = (Number.read? text).map .number := by
  have null : text ≠ "null".toList := by
    rintro rfl
    exact absurd (numeric.2 'n' (by decide)) (by decide)
  have yes : text ≠ "true".toList := by
    rintro rfl
    exact absurd (numeric.2 't' (by decide)) (by decide)
  have no : text ≠ "false".toList := by
    rintro rfl
    exact absurd (numeric.2 'f' (by decide)) (by decide)
  unfold word?
  rw [if_neg null, if_neg yes, if_neg no]

theorem scanFrom?_number (seen : List Token) (n : Number) {behind : List Char}
    (delimited : Delimited behind) :
    scanFrom? .gap seen (n.render.toList ++ behind) =
      (Number.read? n.render.toList).bind fun m =>
        scanFrom? .gap (.leaf (.number m) :: seen) behind := by
  have numeric := n.numeric_render
  have bare := fun c member => isBare_of_isNumeric (numeric.2 c member)
  rw [scanFrom?_word seen numeric.1 bare delimited, word?_numeric numeric]
  cases Number.read? n.render.toList with
  | none => rfl
  | some m => rfl

end Bindery.Json
