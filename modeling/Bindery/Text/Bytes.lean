/-! Octet strings, searching in lists, and the bridge between octets and text.
Text is held as `String`; octets are turned into text only where they are valid UTF-8. -/
namespace Bindery

abbrev Bytes := List UInt8

def utf8Bytes (s : String) : Bytes := s.toByteArray.data.toList

/-- The text whose UTF-8 form the octets are, if they are one. -/
def utf8Text? (bytes : Bytes) : Option String := String.fromUTF8? ⟨bytes.toArray⟩

@[simp] theorem utf8Text?_utf8Bytes (s : String) : utf8Text? (utf8Bytes s) = some s := by
  simp [utf8Text?, utf8Bytes, String.fromUTF8?, s.isValidUTF8, String.fromUTF8]

def spell (cs : List Char) : String := String.ofList cs

/-- The part of `rest` before the first occurrence of `needle`, put behind the reversed list
`seen`, and the part after that occurrence. -/
def cutFrom? [BEq α] (needle seen : List α) : List α → Option (List α × List α)
  | [] => if needle.isEmpty then some (seen.reverse, []) else none
  | a :: rest =>
    if needle.isPrefixOf (a :: rest) then some (seen.reverse, (a :: rest).drop needle.length)
    else cutFrom? needle (a :: seen) rest

def cut? [BEq α] (needle : List α) (hay : List α) : Option (List α × List α) :=
  cutFrom? needle [] hay

/-- The rest of a list with `filling` in place of each occurrence of `needle`, from left to right.
Of one that began before the rest, `passing` elements are still to be passed over. -/
def replaceFrom [BEq α] (needle filling : List α) (passing : Nat) : List α → List α
  | [] => []
  | a :: rest =>
    match passing with
    | passing + 1 => replaceFrom needle filling passing rest
    | 0 =>
      if needle.isPrefixOf (a :: rest) then
        filling ++ replaceFrom needle filling (needle.length - 1) rest
      else a :: replaceFrom needle filling 0 rest

/-- A list with `filling` in place of each occurrence of a needle, which is not empty. What is put
in is not searched. -/
def replaceAll [BEq α] (needle filling hay : List α) : List α := replaceFrom needle filling 0 hay

def occursIn [BEq α] (needle : List α) : List α → Bool
  | [] => needle.isEmpty
  | a :: rest => needle.isPrefixOf (a :: rest) || occursIn needle rest

/-- The positions at which `needle` occurs in the rest of a list, put before those in `found`; the
rest starts at `position`. The last position comes first. -/
def occurrencesFrom [BEq α] (needle : List α) (found : List Nat) (position : Nat) :
    (rest : List α) → List Nat
  | [] => found
  | a :: rest =>
    let found := if needle.isPrefixOf (a :: rest) then position :: found else found
    occurrencesFrom needle found (position + 1) rest

/-- The positions at which a needle, which is not empty, occurs; the last one comes first. -/
def occurrences [BEq α] (needle hay : List α) : List Nat := occurrencesFrom needle [] 0 hay

/-- A list cut into pieces of `width` elements; the last piece may be shorter, and none is empty. -/
def pieces (width : Nat) (as : List α) : List (List α) :=
  if as = [] ∨ width = 0 then []
  else as.take width :: pieces width (as.drop width)
termination_by as.length
decreasing_by
  rename_i h
  have : 0 < as.length := List.length_pos_iff.mpr fun e => h (.inl e)
  simp only [List.length_drop]
  omega

theorem flatten_pieces {width : Nat} (cuts : 0 < width) (as : List α) :
    (pieces width as).flatten = as := by
  fun_induction pieces width as with
  | case1 as done =>
    rcases done with rfl | zero
    · rfl
    · exact absurd zero (Nat.ne_of_gt cuts)
  | case2 as _ ih => rw [List.flatten_cons, ih, List.take_append_drop]

/-- The number that octets spell with the least significant one first. -/
def littleEndian : Bytes → Nat
  | [] => 0
  | b :: rest => b.toNat + 256 * littleEndian rest

/-- A number as octets with the least significant one first; what does not fit is dropped. -/
def octets : (width : Nat) → Nat → Bytes
  | 0, _ => []
  | width + 1, n => UInt8.ofNat n :: octets width (n / 256)

@[simp] theorem length_octets (width n : Nat) : (octets width n).length = width := by
  induction width generalizing n with
  | zero => rfl
  | succ width ih => simp [octets, ih]

theorem littleEndian_octets {width n : Nat} (fits : n < Nat.pow 256 width) :
    littleEndian (octets width n) = n := by
  induction width generalizing n with
  | zero =>
    have : n = 0 := by simpa using fits
    simp [this, octets, littleEndian]
  | succ width ih =>
    have rest : n / 256 < Nat.pow 256 width := by
      apply (Nat.div_lt_iff_lt_mul (by decide)).mpr
      simpa [Nat.pow_succ] using fits
    simp only [octets, littleEndian, ih rest, UInt8.toNat_ofNat']
    omega

def hexValue? (c : Char) : Option Nat :=
  if '0' ≤ c ∧ c ≤ '9' then some (c.toNat - '0'.toNat)
  else if 'a' ≤ c ∧ c ≤ 'f' then some (c.toNat - 'a'.toNat + 10)
  else if 'A' ≤ c ∧ c ≤ 'F' then some (c.toNat - 'A'.toNat + 10)
  else none

def hexDigit (n : Nat) : Char :=
  if n < 10 then Char.ofNat ('0'.toNat + n) else Char.ofNat ('A'.toNat + (n - 10))

theorem hexValue_hexDigit (n : Fin 16) : hexValue? (hexDigit n) = some n.val := by
  revert n
  decide

end Bindery
