import Bindery.Proofs.UriPath.Parts

/-! Escaped paths as escapings. An escaped path holds none but the characters of a URI path, with two
digits behind each percent sign, and it stands for the octets that the path of its reference stands
for, whether it was kept as it was or escaped anew. Nothing is claimed of references that have no
escaped path, but that literal names have one. -/
namespace Bindery.UriPath

def IsUriChar (c : Char) : Prop :=
  isLetter c = true ∨ isDigit c = true ∨ c ∈ "-_.~/!$&'()*+,;=:@[]%".toList

/-- Characters of a URI path in which every percent sign is followed by two hexadecimal digits. -/
structure IsEscaping (cs : List Char) : Prop where
  chars : ∀ c ∈ cs, IsUriChar c
  escapes : ∀ front rest, cs = front ++ '%' :: rest → ∃ high low tail, rest = high :: low :: tail ∧
    (hexValue? high).isSome = true ∧ (hexValue? low).isSome = true

/-- A text without control characters. -/
def IsPrintable (text : String) : Prop := ∀ c ∈ text.toList, isControl c = false

theorem isPrintable_iff {text : String} : IsPrintable text ↔ text.toList.any isControl = false := by
  simp [IsPrintable, List.any_eq_false]

theorem isUriChar_of_isEscapedForm {c : Char} (kind : isEscapedForm c = true) : IsUriChar c := by
  have plain : "-_.~$&+,/:;=@".toList ⊆ "-_.~/!$&'()*+,;=:@[]%".toList := by decide
  have reserved : "!'()*[]%".toList ⊆ "-_.~/!$&'()*+,;=:@[]%".toList := by decide
  simp only [isEscapedForm, isPlain, Bool.or_eq_true, List.contains_iff_mem] at kind
  rcases kind with ((letter | digit) | listed) | listed
  · exact .inl letter
  · exact .inr (.inl digit)
  · exact .inr (.inr (plain listed))
  · exact .inr (.inr (reserved listed))

theorem escapes_of_escapesValid {cs : List Char} (valid : escapesValid cs = true) :
    ∀ front rest, cs = front ++ '%' :: rest → ∃ high low tail, rest = high :: low :: tail ∧
      (hexValue? high).isSome = true ∧ (hexValue? low).isSome = true := by
  fun_induction escapesValid cs with
  | case1 => simp
  | case2 a b tail ih =>
    simp only [Bool.and_eq_true] at valid
    obtain ⟨⟨high, low⟩, valid⟩ := valid
    rintro (_ | ⟨_, _ | ⟨_, _ | ⟨_, front⟩⟩⟩) rest same
    · cases same
      exact ⟨a, b, tail, rfl, high, low⟩
    · cases same
      cases high
    · cases same
      cases low
    · cases same
      exact ih valid front rest rfl
  | case3 tail short => cases valid
  | case4 c tail long short ih =>
    rintro (_ | ⟨_, front⟩) rest same
    · cases same
      exact absurd rfl short
    · cases same
      exact ih valid front rest rfl

theorem isEscapedForm_hexDigit : ∀ n : Fin 16, isEscapedForm (hexDigit n) = true := by decide

theorem escapesValid_cons {c : Char} (solid : c ≠ '%') (rest : List Char) :
    escapesValid (c :: rest) = escapesValid rest := by
  apply escapesValid.eq_4
  · intro a b tail same
    exact absurd same solid
  · exact solid

/-! ## Paths that are escaped anew -/

theorem escapesValid_escape (bytes : Bytes) : escapesValid (escape bytes) = true := by
  induction bytes with
  | nil => rfl
  | cons b bytes ih =>
    rw [escape_cons]
    by_cases plain : isPlain (Char.ofNat b.toNat) = true
    · have solid := (plain_octet ⟨b.toNat, b.toNat_lt⟩ plain).2
      rw [if_pos plain, List.singleton_append, escapesValid_cons solid, ih]
    · have small : b.toNat < 256 := b.toNat_lt
      have high := hexValue_hexDigit ⟨b.toNat / 16, by omega⟩
      have low := hexValue_hexDigit ⟨b.toNat % 16, by omega⟩
      simp only at high low
      rw [if_neg plain]
      simp only [escapeByte, List.cons_append, List.nil_append, escapesValid, high, low, ih]
      rfl

theorem isEscapedForm_escape (bytes : Bytes) : ∀ c ∈ escape bytes, isEscapedForm c = true := by
  intro c listed
  obtain ⟨b, _, made⟩ := List.mem_flatMap.mp listed
  have made : c ∈ if isPlain (Char.ofNat b.toNat) then [Char.ofNat b.toNat] else escapeByte b :=
    made
  split at made
  · rename_i plain
    obtain rfl := List.mem_singleton.mp made
    simp [isEscapedForm, plain]
  · have small : b.toNat < 256 := b.toNat_lt
    have high := isEscapedForm_hexDigit ⟨b.toNat / 16, by omega⟩
    have low := isEscapedForm_hexDigit ⟨b.toNat % 16, by omega⟩
    simp only [escapeByte, List.mem_cons, List.not_mem_nil, or_false] at made
    rcases made with rfl | rfl | rfl
    · decide
    · exact high
    · exact low

/-! ## Escaped paths -/

section
variable {reference uri : String}

theorem escapesValid_of_escaped (escaped : escaped? reference = some uri) :
    escapesValid uri.toList = true := by
  obtain ⟨_, raw, _, valid, ⟨_, kept⟩ | ⟨_, anew⟩⟩ := escaped_cases escaped
  · rw [kept]
    exact valid
  · rw [anew]
    exact escapesValid_escape _

theorem isEscapedForm_of_escaped (escaped : escaped? reference = some uri) :
    ∀ c ∈ uri.toList, isEscapedForm c = true := by
  obtain ⟨_, raw, _, _, ⟨form, kept⟩ | ⟨_, anew⟩⟩ := escaped_cases escaped
  · rw [kept]
    exact List.all_eq_true.mp form
  · rw [anew]
    exact isEscapedForm_escape _

theorem isEscaping_of_escaped (escaped : escaped? reference = some uri) :
    IsEscaping uri.toList where
  chars := fun c listed => isUriChar_of_isEscapedForm (isEscapedForm_of_escaped escaped c listed)
  escapes := escapes_of_escapesValid (escapesValid_of_escaped escaped)

end

theorem escapesValid_of_solid {cs : List Char} (solid : ∀ c ∈ cs, c ≠ '%') :
    escapesValid cs = true := by
  induction cs with
  | nil => rfl
  | cons c cs ih =>
    obtain ⟨first, rest⟩ := List.forall_mem_cons.mp solid
    rw [escapesValid_cons first, ih rest]

/-- A literal name is UTF-8 and holds no escapes, so that nothing can go wrong in it. -/
theorem exists_escaped {name : String} (literal : IsLiteral name) (printable : IsPrintable name) :
    ∃ uri, escaped? name = some uri := by
  have clean : name.toList.any isControl = false := isPrintable_iff.mp printable
  have solid : ∀ c ∈ name.toList, c ≠ '%' := fun c listed => (literal.plain c listed).2.2
  have valid : escapesValid name.toList = true := escapesValid_of_solid solid
  have octets : utf8Text? (decode name.toList) = some name := by
    rw [decode_of_solid solid, utf8Text?_utf8Bytes, spell, String.ofList_toList]
  rw [escaped?_of_path clean (pathOf?_of_literal literal), valid, if_neg (by decide), octets]
  split
  · exact ⟨_, rfl⟩
  · exact ⟨_, rfl⟩

/-- An escaped path stands for the path of the reference in parts, and for nothing if the reference
is opaque. -/
theorem decode_of_parts {parts : Parts} {reference uri : String} (wf : parts.WellFormed)
    (text : parts.text = reference.toList) (escaped : escaped? reference = some uri) :
    decode uri.toList = if parts.isOpaque then [] else decode parts.path := by
  obtain ⟨raw, found, octets⟩ := decode_of_escaped escaped
  have path := Parts.pathOf?_text wf
  rw [text, spell, String.ofList_toList, found] at path
  rw [octets]
  split at path
  · rename_i pathless
    cases path
    rw [if_pos pathless, decode_nil]
  · rename_i pathless
    rw [if_neg pathless]
    split at path
    · cases path
    · cases path
      rfl

/-- Every reference can be taken apart. However it is, its escaped path is an escaping of the octets
of its path, and empty if the reference is opaque. A literal name without control characters has an
escaped path and shares it with no other literal name. -/
theorem escaping_of_path (reference : String) :
    (∃ parts : Parts, parts.WellFormed ∧ parts.text = reference.toList) ∧
    (∀ (parts : Parts) (uri : String), parts.WellFormed → parts.text = reference.toList →
      escaped? reference = some uri → IsEscaping uri.toList ∧
        decode uri.toList = if parts.isOpaque then [] else decode parts.path) ∧
    (IsLiteral reference → IsPrintable reference →
      (∃ uri, escaped? reference = some uri) ∧
        ∀ other, IsLiteral other → escaped? other = escaped? reference → other = reference) := by
  refine ⟨Parts.exists_parts reference.toList, ?_, ?_⟩
  · intro parts uri wf text escaped
    exact ⟨isEscaping_of_escaped escaped, decode_of_parts wf text escaped⟩
  · intro literal printable
    obtain ⟨uri, escaped⟩ := exists_escaped literal printable
    refine ⟨⟨uri, escaped⟩, fun other distinct same => ?_⟩
    exact eq_of_escaped distinct literal (same.trans escaped) escaped

def servedPage : Parts where
  scheme := some "https".toList
  authority := some "example.com".toList
  path := "/caf%C3%A9 1.xhtml".toList
  behind := "#top".toList

theorem wellFormed_servedPage : servedPage.WellFormed where
  scheme := by
    rintro _ ⟨⟩
    exact ⟨⟨'h', rfl, rfl⟩, List.all_eq_true.mp (by decide)⟩
  relative := nofun
  authority := by
    rintro _ ⟨⟩
    exact ⟨by decide, by rintro _ ⟨⟩; rfl⟩
  rooted := nofun
  inFront := Parts.inFront_of_all (by decide)
  behind := by
    rintro _ ⟨⟩
    exact .inl rfl

theorem escaping_of_path_servedPage :
    servedPage.WellFormed ∧ servedPage.text = "https://example.com/caf%C3%A9 1.xhtml#top".toList ∧
      escaped? "https://example.com/caf%C3%A9 1.xhtml#top" = some "/caf%C3%A9%201.xhtml" ∧
      IsEscaping "/caf%C3%A9%201.xhtml".toList ∧
      decode "/caf%C3%A9%201.xhtml".toList = decode "/caf%C3%A9 1.xhtml".toList ∧
      IsLiteral "a 1.xhtml" ∧ IsPrintable "a 1.xhtml" ∧
      (∃ uri, escaped? "a 1.xhtml" = some uri) ∧ escaped? "a 2.xhtml" ≠ escaped? "a 1.xhtml" := by
  have escaped : escaped? "https://example.com/caf%C3%A9 1.xhtml#top" =
      some "/caf%C3%A9%201.xhtml" := by decide +kernel
  obtain ⟨form, octets⟩ := (escaping_of_path "https://example.com/caf%C3%A9 1.xhtml#top").2.1
    servedPage _ wellFormed_servedPage rfl escaped
  have literal : IsLiteral "a 1.xhtml" := isLiteral_of_all (by decide) (by decide)
  have other : IsLiteral "a 2.xhtml" := isLiteral_of_all (by decide) (by decide)
  have printable : IsPrintable "a 1.xhtml" := isPrintable_iff.mpr (by decide)
  obtain ⟨found, alone⟩ := (escaping_of_path "a 1.xhtml").2.2 literal printable
  refine ⟨wellFormed_servedPage, rfl, escaped, form, octets, literal, printable, found, ?_⟩
  intro same
  exact absurd (alone "a 2.xhtml" other same) (by decide)

/-- A name without slashes behind its scheme. -/
def isbn : Parts where
  scheme := some "urn".toList
  path := "isbn:123".toList

/-- What is left of the name without its scheme is not what its escaped path stands for. -/
theorem isbn_pathless : isbn.WellFormed ∧ isbn.text = "urn:isbn:123".toList ∧
    escaped? "urn:isbn:123" = some "" ∧ decode "".toList ≠ decode isbn.path := by
  refine ⟨⟨?_, nofun, nofun, ?_, Parts.inFront_of_all (by decide), nofun⟩, rfl, by decide,
    by decide +kernel⟩
  · rintro _ ⟨⟩
    exact ⟨⟨'u', rfl, rfl⟩, List.all_eq_true.mp (by decide)⟩
  · rintro - - rest ⟨⟩

end Bindery.UriPath
