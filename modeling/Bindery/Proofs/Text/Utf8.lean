import Bindery.Proofs.Text.Search

/-! Octets of texts. Octets are the UTF-8 form of one text at most. In that form the characters of
ASCII stand for themselves and no others have octets of that range, so that an ASCII text stands in
another one where its octets stand in those of the other one. -/
namespace Bindery

theorem spell_append (first second : List Char) :
    spell (first ++ second) = spell first ++ spell second := by
  rw [← String.toList_inj]
  simp [spell]

theorem utf8Bytes_append (s t : String) : utf8Bytes (s ++ t) = utf8Bytes s ++ utf8Bytes t := by
  simp [utf8Bytes]

theorem utf8Bytes_spell (cs : List Char) :
    utf8Bytes (spell cs) = cs.flatMap String.utf8EncodeChar := by
  unfold utf8Bytes spell
  simp [String.ofList, List.utf8Encode]

theorem utf8Bytes_eq_flatMap (s : String) :
    utf8Bytes s = s.toList.flatMap String.utf8EncodeChar := by
  rw [← utf8Bytes_spell, spell, String.ofList_toList]

theorem utf8Bytes_of_utf8Text? {bytes : Bytes} {text : String}
    (found : utf8Text? bytes = some text) : utf8Bytes text = bytes := by
  unfold utf8Text? String.fromUTF8? at found
  split at found
  · cases found
    rfl
  · cases found

theorem utf8Text?_eq_some_iff {bytes : Bytes} {text : String} :
    utf8Text? bytes = some text ↔ bytes = utf8Bytes text := by
  refine ⟨fun found => (utf8Bytes_of_utf8Text? found).symm, ?_⟩
  rintro rfl
  exact utf8Text?_utf8Bytes text

theorem eq_of_encode_prefix {c d : Char} {rest : Bytes}
    (begins : String.utf8EncodeChar c <+: String.utf8EncodeChar d ++ rest) : c = d := by
  obtain ⟨more, same⟩ := begins
  have read := congrArg (fun bytes : Bytes => bytes.toByteArray.utf8DecodeChar? 0) same
  simpa only [List.toByteArray_append, ByteArray.utf8DecodeChar?_utf8EncodeChar_append,
    Option.some.injEq] using read

/-- No character has the first octet of a byte order mark of UTF-16. -/
theorem exists_first_octet (c : Char) :
    ∃ b more, String.utf8EncodeChar c = b :: more ∧ b ≠ 0xFF ∧ b ≠ 0xFE := by
  obtain ⟨b, more, octets⟩ := List.exists_cons_of_ne_nil (String.utf8EncodeChar_ne_nil (c := c))
  have first : UInt8.IsUTF8FirstByte b := by
    simpa only [octets, List.getElem_cons_zero] using
      UInt8.isUTF8FirstByte_getElem_zero_utf8EncodeChar (c := c)
  refine ⟨b, more, octets, ?_, ?_⟩ <;> rintro rfl <;> exact absurd first (by decide)

/-! ## Characters of ASCII -/

def IsAscii (cs : List Char) : Prop := ∀ c ∈ cs, c.toNat < 0x80

instance (cs : List Char) : Decidable (IsAscii cs) :=
  List.decidableBAll (fun c : Char => c.toNat < 0x80) cs

theorem encode_cases (c : Char) :
    (c.toNat < 0x80 ∧ String.utf8EncodeChar c = [UInt8.ofNat c.toNat]) ∨
      (0x80 ≤ c.toNat ∧ ∀ b ∈ String.utf8EncodeChar c, 0x80 ≤ b.toNat) := by
  have value : c.toNat = c.val.toNat := rfl
  unfold String.utf8EncodeChar
  simp only []
  split
  · exact .inl ⟨by omega, rfl⟩
  · refine .inr ⟨by omega, ?_⟩
    repeat' split
    all_goals
      intro b member
      simp only [List.mem_cons, List.not_mem_nil, or_false] at member
      rcases member with rfl | rfl | rfl | rfl <;> simp only [UInt8.toNat_ofNat'] <;> omega

theorem ofNat_injective_ascii {c d : Char} (one : c.toNat < 0x80) (other : d.toNat < 0x80)
    (same : UInt8.ofNat c.toNat = UInt8.ofNat d.toNat) : c = d := by
  have numbers := congrArg UInt8.toNat same
  simp only [UInt8.toNat_ofNat'] at numbers
  exact Char.toNat_inj.mp (by omega)

theorem prefix_flatMap_encode {needle text : List Char} (ascii : IsAscii needle) :
    needle.flatMap String.utf8EncodeChar <+: text.flatMap String.utf8EncodeChar ↔
      needle <+: text := by
  induction needle generalizing text with
  | nil => simp
  | cons n needle ih =>
    have low := ascii n List.mem_cons_self
    obtain ⟨-, octet⟩ : n.toNat < 0x80 ∧ String.utf8EncodeChar n = [UInt8.ofNat n.toNat] :=
      (encode_cases n).resolve_right fun high => absurd high.1 (Nat.not_le_of_lt low)
    have later := fun text => @ih text fun c member => ascii c (List.mem_cons_of_mem n member)
    cases text with
    | nil => simp [octet]
    | cons c text =>
      rw [List.flatMap_cons, List.flatMap_cons, octet, List.singleton_append, List.cons_prefix_cons]
      rcases encode_cases c with ⟨small, single⟩ | ⟨large, high⟩
      · rw [single, List.singleton_append, List.cons_prefix_cons, later text]
        refine and_congr ⟨ofNat_injective_ascii low small, ?_⟩ Iff.rfl
        rintro rfl
        rfl
      · obtain ⟨b, more, octets, -⟩ := exists_first_octet c
        have apart : 0x80 ≤ b.toNat := high b (octets ▸ List.mem_cons_self)
        rw [octets, List.cons_append, List.cons_prefix_cons]
        constructor
        · rintro ⟨rfl, -⟩
          rw [UInt8.toNat_ofNat'] at apart
          omega
        · rintro ⟨rfl, -⟩
          omega

theorem infix_flatMap_encode {needle text : List Char} (ascii : IsAscii needle)
    (filled : needle ≠ []) :
    needle.flatMap String.utf8EncodeChar <:+: text.flatMap String.utf8EncodeChar ↔
      needle <:+: text := by
  obtain ⟨n, needle, rfl⟩ := List.exists_cons_of_ne_nil filled
  have low := ascii n List.mem_cons_self
  obtain ⟨-, octet⟩ : n.toNat < 0x80 ∧ String.utf8EncodeChar n = [UInt8.ofNat n.toNat] :=
    (encode_cases n).resolve_right fun high => absurd high.1 (Nat.not_le_of_lt low)
  induction text with
  | nil => simp [octet]
  | cons c text ih =>
    have begins := @prefix_flatMap_encode (n :: needle) (c :: text) ascii
    rw [List.infix_cons_iff]
    refine Iff.trans ?_ (or_congr begins ih)
    rw [List.flatMap_cons (x := c)]
    rcases encode_cases c with ⟨-, single⟩ | ⟨-, high⟩
    · rw [single, List.singleton_append, List.infix_cons_iff]
    · have absent : UInt8.ofNat n.toNat ∉ String.utf8EncodeChar c := by
        intro member
        have apart := high _ member
        rw [UInt8.toNat_ofNat'] at apart
        omega
      have behind := @infix_append_iff_of_not_mem _ _ (needle.flatMap String.utf8EncodeChar) _
        (text.flatMap String.utf8EncodeChar) absent
      rw [List.flatMap_cons, octet, List.singleton_append, behind]
      exact (or_iff_right_of_imp fun starts => behind.mp starts.isInfix).symm

theorem cut?_utf8Bytes {needle : String} (ascii : IsAscii needle.toList)
    (whole : Borderless needle.toList) (whole' : Borderless (utf8Bytes needle))
    (filled : needle.toList ≠ []) (text : String) :
    cut? (utf8Bytes needle) (utf8Bytes text) = (cut? needle.toList text.toList).map
      fun parts => (utf8Bytes (spell parts.1), utf8Bytes (spell parts.2)) := by
  have within (text : String) : utf8Bytes needle <:+: utf8Bytes text ↔
      needle.toList <:+: text.toList := by
    rw [utf8Bytes_eq_flatMap, utf8Bytes_eq_flatMap, infix_flatMap_encode ascii filled]
  have filled' : utf8Bytes needle ≠ [] := by
    intro empty
    have stands : needle.toList <:+: "".toList := (within "").mp (empty ▸ List.nil_infix)
    exact filled (List.infix_nil.mp stands)
  cases found : cut? needle.toList text.toList with
  | some parts =>
    obtain ⟨same, free⟩ := (cut?_eq_some_iff whole filled).mp found
    have letters : text = spell parts.1 ++ (needle ++ spell parts.2) := by
      rw [← String.toList_inj, same]
      simp [spell]
    refine (cut?_eq_some_iff whole' filled').mpr ⟨?_, ?_⟩
    · rw [letters, utf8Bytes_append, utf8Bytes_append]
    · rw [within]
      simpa [spell] using free
  | none =>
    cases octets : cut? (utf8Bytes needle) (utf8Bytes text) with
    | none => rfl
    | some parts =>
      obtain ⟨same, -⟩ := (cut?_eq_some_iff whole' filled').mp octets
      have stands : needle.toList <:+: text.toList :=
        (within text).mp ⟨parts.1, parts.2, by rw [same, List.append_assoc]⟩
      obtain ⟨parts, hit⟩ := exists_cutFrom?_of_infix [] stands
      rw [← cut?, found] at hit
      cases hit

end Bindery
