import Bindery.Zip.Member

/-! Packed content unpacks to itself: a stored block gives back its octets, and so do the blocks
that longer content is cut into. -/
namespace Bindery.Zip

namespace Inflate

theorem number?_mark (last : Bool) (rest : Bytes) :
    Bits.number? 3 { rest := (if last then 1 else 0) :: rest } =
      some (if last then 1 else 0, { pending := [false, false, false, false, false], rest }) := by
  cases last with
  | true => rfl
  | false => rfl

theorem storedBlock?_octets (out : Array UInt8) (bytes behind : Bytes)
    (fits : bytes.length ≤ blockLimit) :
    storedBlock? out
        (octets 2 bytes.length ++ octets 2 (0xFFFF - bytes.length) ++ bytes ++ behind) =
      some (out ++ bytes.toArray, { rest := behind }) := by
  have bound : bytes.length ≤ 0xFFFF := fits
  have length : littleEndian (octets 2 bytes.length) = bytes.length :=
    littleEndian_octets (Nat.lt_succ_of_le bound)
  have complement : littleEndian (octets 2 (0xFFFF - bytes.length)) = 0xFFFF - bytes.length :=
    littleEndian_octets (Nat.lt_succ_of_le (Nat.sub_le _ _))
  have whole : bytes.length + (0xFFFF - bytes.length) = 0xFFFF := by omega
  simp only [octets] at length complement
  simp [octets, storedBlock?, length, complement, whole]

theorem blocks?_storedForm (fuel : Nat) (out : Array UInt8) (last : Bool) (bytes behind : Bytes)
    (fits : bytes.length ≤ blockLimit) :
    blocks? (fuel + 1) out { rest := storedForm last bytes ++ behind } =
      if last then some (out ++ bytes.toArray, { rest := behind })
      else blocks? fuel (out ++ bytes.toArray) { rest := behind } := by
  have mark := number?_mark last
    (octets 2 bytes.length ++ octets 2 (0xFFFF - bytes.length) ++ bytes ++ behind)
  have block := storedBlock?_octets out bytes behind fits
  have shape : storedForm last bytes ++ behind = (if last then 1 else 0) ::
      (octets 2 bytes.length ++ octets 2 (0xFFFF - bytes.length) ++ bytes ++ behind) := rfl
  rw [shape, blocks?, mark]
  cases last with
  | true => simp only [block?, if_true, Nat.reduceDiv, Nat.reduceMod, block]
  | false => simp [block?, -List.append_assoc, block]

theorem blocks?_storedBlocks (fuel : Nat) (out : Array UInt8) (bytes behind : Bytes)
    (enough : bytes.length < fuel) :
    blocks? fuel out { rest := storedBlocks bytes ++ behind } =
      some (out ++ bytes.toArray, { rest := behind }) := by
  induction bytes using storedBlocks.induct generalizing fuel out with
  | case1 bytes fits =>
    obtain ⟨fuel, rfl⟩ : ∃ n, fuel = n + 1 := ⟨fuel - 1, by omega⟩
    unfold storedBlocks
    rw [if_pos fits, blocks?_storedForm fuel out true bytes behind fits]
    rfl
  | case2 bytes long ih =>
    obtain ⟨fuel, rfl⟩ : ∃ n, fuel = n + 1 := ⟨fuel - 1, by omega⟩
    have cut : (bytes.take blockLimit).length ≤ blockLimit := List.length_take_le _ _
    have rest := ih fuel (out ++ (bytes.take blockLimit).toArray) (by
      simp only [List.length_drop, blockLimit] at long ⊢
      omega)
    unfold storedBlocks
    rw [if_neg long, List.append_assoc, blocks?_storedForm fuel out false _ _ cut]
    have joined : out ++ (bytes.take blockLimit).toArray ++ (bytes.drop blockLimit).toArray =
        out ++ bytes.toArray := by
      rw [Array.append_assoc, List.append_toArray (bytes.take blockLimit), List.take_append_drop]
    rw [if_neg (by decide), rest, joined]

end Inflate

theorem length_le_storedBlocks (bytes : Bytes) : bytes.length ≤ (storedBlocks bytes).length := by
  induction bytes using storedBlocks.induct with
  | case1 bytes fits =>
    unfold storedBlocks
    rw [if_pos fits]
    simp only [storedForm, List.length_append]
    omega
  | case2 bytes long ih =>
    unfold storedBlocks
    rw [if_neg long]
    simp only [storedForm, List.length_append, List.length_take, List.length_drop] at ih ⊢
    omega

theorem inflate?_deflate (bytes : Bytes) : inflate? (deflate bytes) = some bytes := by
  have enough : bytes.length < Bits.size { rest := deflate bytes } + 1 := by
    have := length_le_storedBlocks bytes
    simp only [Bits.size, deflate, List.length_nil]
    omega
  have unpacked := Inflate.blocks?_storedBlocks _ #[] bytes [] enough
  rw [List.append_nil] at unpacked
  unfold inflate? deflate at *
  simp [unpacked]

@[simp] theorem Member.content_ofContent (name : String) (method : Method) (content : Bytes) :
    (ofContent name method content).content = .ok content := by
  have unpacked : (ofContent name method content).unpacked = .ok content := by
    cases method with
    | stored => rfl
    | deflated => simp [Member.unpacked, ofContent, Method.pack, inflate?_deflate]
  unfold Member.content
  rw [unpacked]
  exact if_pos rfl

end Bindery.Zip
