import Bindery.Proofs.Text.Utf8
import Bindery.Text.Lossy

/-! Text from octets that are UTF-8. Each character takes its own octets, and nothing of the text is
replaced. -/
namespace Bindery.Lossy

section Octets

variable {value remaining low high : Nat} {b : UInt8} {place : Place} (rest : Bytes)

theorem decodeFrom_lead (starts : start b.toNat = (place, [])) :
    decodeFrom .between (b :: rest) = decodeFrom place rest := by
  rw [decodeFrom, Place.step, starts]
  rfl

theorem decodeFrom_more (within : low ≤ b.toNat ∧ b.toNat ≤ high) (more : 1 < remaining) :
    decodeFrom (.inside value remaining low high) (b :: rest) =
      decodeFrom (.inside (64 * value + (b.toNat - 0x80)) (remaining - 1) 0x80 0xBF) rest := by
  have others : ¬ remaining ≤ 1 := Nat.not_le_of_lt more
  simp only [decodeFrom, Place.step, if_pos within, if_neg others, List.nil_append]

theorem decodeFrom_last (within : low ≤ b.toNat ∧ b.toNat ≤ high) :
    decodeFrom (.inside value 1 low high) (b :: rest) =
      Char.ofNat (64 * value + (b.toNat - 0x80)) :: decodeFrom .between rest := by
  simp only [decodeFrom, Place.step, if_pos within, Nat.le_refl, if_true, List.cons_append,
    List.nil_append]

end Octets

theorem toNat_follower (n : Nat) : (UInt8.ofNat (n % 64 + 128)).toNat = n % 64 + 128 := by
  rw [UInt8.toNat_ofNat']
  omega

theorem follower_within (n : Nat) : 0x80 ≤ (UInt8.ofNat (n % 64 + 128)).toNat ∧
    (UInt8.ofNat (n % 64 + 128)).toNat ≤ 0xBF := by
  rw [toNat_follower]
  omega

theorem follower_value (n : Nat) : (UInt8.ofNat (n % 64 + 128)).toNat - 0x80 = n % 64 := by
  rw [toNat_follower]
  omega

/-- The first octet of three leaves room for the second one of each character, and for no longer
form than needed. -/
theorem start_three {v : Nat} (least : 0x800 ≤ v) (most : v < 0x10000)
    (legal : v < 0xD800 ∨ 0xDFFF < v) : ∃ low high,
      start (v / 4096 + 224) = (.inside (v / 4096) 2 low high, []) ∧
        low ≤ v / 64 % 64 + 128 ∧ v / 64 % 64 + 128 ≤ high := by
  by_cases first : v / 4096 = 0
  · refine ⟨0xA0, 0xBF, ?_, by omega, by omega⟩
    rw [first]
    rfl
  by_cases before : v / 4096 = 13
  · refine ⟨0x80, 0x9F, ?_, by omega, by omega⟩
    rw [before]
    rfl
  refine ⟨0x80, 0xBF, ?_, by omega, by omega⟩
  have value : v / 4096 + 224 - 0xE0 = v / 4096 := by omega
  rw [start, if_neg (by omega), if_neg (by omega), if_neg (by omega), if_neg (by omega),
    if_pos (by omega), value]

theorem start_four {v : Nat} (least : 0x10000 ≤ v) (most : v < 0x110000) : ∃ low high,
    start (v / 262144 + 240) = (.inside (v / 262144) 3 low high, []) ∧
      low ≤ v / 4096 % 64 + 128 ∧ v / 4096 % 64 + 128 ≤ high := by
  by_cases first : v / 262144 = 0
  · refine ⟨0x90, 0xBF, ?_, by omega, by omega⟩
    rw [first]
    rfl
  by_cases last : v / 262144 = 4
  · refine ⟨0x80, 0x8F, ?_, by omega, by omega⟩
    rw [last]
    rfl
  refine ⟨0x80, 0xBF, ?_, by omega, by omega⟩
  have value : v / 262144 + 240 - 0xF0 = v / 262144 := by omega
  rw [start, if_neg (by omega), if_neg (by omega), if_neg (by omega), if_neg (by omega),
    if_neg (by omega), if_neg (by omega), if_pos (by omega), value]

theorem decodeFrom_encode (c : Char) (rest : Bytes) :
    decodeFrom .between (String.utf8EncodeChar c ++ rest) = c :: decodeFrom .between rest := by
  have number : c.val.toNat = c.toNat := rfl
  have legal : c.toNat < 0xD800 ∨ 0xDFFF < c.toNat ∧ c.toNat < 0x110000 := c.valid
  have made {n : Nat} (same : n = c.toNat) : Char.ofNat n = c := by rw [same, Char.ofNat_toNat]
  unfold String.utf8EncodeChar
  simp only [number]
  split
  · have octet : (UInt8.ofNat c.toNat).toNat = c.toNat := by
      rw [UInt8.toNat_ofNat']
      omega
    have starts : start c.toNat = (.between, [c]) := by
      rw [start, if_pos (by omega), made rfl]
    rw [List.singleton_append, decodeFrom, Place.step, octet, starts]
    rfl
  split
  · have lead : (UInt8.ofNat (c.toNat / 64 % 32 + 192)).toNat = c.toNat / 64 + 192 := by
      rw [UInt8.toNat_ofNat']
      omega
    have starts : start (c.toNat / 64 + 192) = (.inside (c.toNat / 64) 1 0x80 0xBF, []) := by
      have value : c.toNat / 64 + 192 - 0xC0 = c.toNat / 64 := by omega
      rw [start, if_neg (by omega), if_pos (by omega), value]
    rw [List.cons_append, decodeFrom_lead _ (by rw [lead, starts]), List.singleton_append,
      decodeFrom_last _ (follower_within _), follower_value, made (by omega)]
  split
  · have lead : (UInt8.ofNat (c.toNat / 4096 % 16 + 224)).toNat = c.toNat / 4096 + 224 := by
      rw [UInt8.toNat_ofNat']
      omega
    obtain ⟨low, high, starts, within⟩ :=
      start_three (by omega : 0x800 ≤ c.toNat) (by omega) (legal.imp_right And.left)
    rw [← toNat_follower] at within
    rw [List.cons_append, decodeFrom_lead _ (by rw [lead, starts]), List.cons_append,
      decodeFrom_more _ within (by decide), follower_value, List.singleton_append,
      decodeFrom_last _ (follower_within _), follower_value, made (by omega)]
  · have lead : (UInt8.ofNat (c.toNat / 262144 % 8 + 240)).toNat = c.toNat / 262144 + 240 := by
      rw [UInt8.toNat_ofNat']
      omega
    obtain ⟨low, high, starts, within⟩ :=
      start_four (by omega : 0x10000 ≤ c.toNat) (by omega)
    rw [← toNat_follower] at within
    rw [List.cons_append, decodeFrom_lead _ (by rw [lead, starts]), List.cons_append,
      decodeFrom_more _ within (by decide), follower_value, List.cons_append,
      decodeFrom_more _ (follower_within _) (by decide), follower_value, List.singleton_append,
      decodeFrom_last _ (follower_within _), follower_value, made (by omega)]

theorem decode_utf8Bytes (text : String) : decode (utf8Bytes text) = text := by
  have chars (cs : List Char) :
      decodeFrom .between (cs.flatMap String.utf8EncodeChar) = cs := by
    induction cs with
    | nil => rfl
    | cons c cs ih => rw [List.flatMap_cons, decodeFrom_encode, ih]
  rw [decode, utf8Bytes_eq_flatMap, chars, spell, String.ofList_toList]

end Bindery.Lossy
