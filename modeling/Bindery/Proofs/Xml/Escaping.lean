import Bindery.Proofs.Xml.Escape
import Bindery.Xml.Attribute

/-! Escaping as a code. What is written for a text can neither end a value nor begin markup, it is
the text again once it is read, and texts are written one behind the other. None of this depends on
what the text looks like; it may be markup or references itself. -/
namespace Bindery.Xml

def predefined : List (List Char) :=
  ["amp".toList, "lt".toList, "gt".toList, "quot".toList, "apos".toList]

/-- Text in which no character ends a value or begins a tag, and each `&` begins one of the
predefined references. -/
structure Inert (cs : List Char) : Prop where
  delimiters : ∀ c ∈ cs, c ≠ '<' ∧ c ≠ '>' ∧ c ≠ '"' ∧ c ≠ '\''
  references : ∀ before after, cs = before ++ '&' :: after →
    ∃ name ∈ predefined, name ++ [';'] <+: after

theorem escapeChar_cases (c : Char) :
    (∃ name ∈ predefined, escapeChar c = '&' :: (name ++ [';'])) ∨ c ≠ '&' ∧ escapeChar c = [c] := by
  unfold escapeChar
  split
  · exact .inl ⟨"amp".toList, by decide, rfl⟩
  split
  · exact .inl ⟨"lt".toList, by decide, rfl⟩
  split
  · exact .inl ⟨"gt".toList, by decide, rfl⟩
  split
  · exact .inl ⟨"quot".toList, by decide, rfl⟩
  split
  · exact .inl ⟨"apos".toList, by decide, rfl⟩
  · rename_i other _ _ _ _
    exact .inr ⟨other, rfl⟩

theorem not_mem_reference {name : List Char} (listed : name ∈ predefined) {c : Char}
    (other : predefined.all (fun name => ! (name ++ [';']).contains c) = true) : c ∉ name ++ [';'] := by
  intro member
  have absent := List.all_eq_true.mp other name listed
  rw [List.contains_iff_mem.mpr member] at absent
  cases absent

/-- The only `&` that a character is written with begins its reference, which ends with it. -/
theorem reference_of_escapeChar {c : Char} {before after : List Char}
    (written : escapeChar c = before ++ '&' :: after) : ∃ name ∈ predefined, after = name ++ [';'] := by
  rcases escapeChar_cases c with ⟨name, listed, form⟩ | ⟨other, form⟩
  · rw [form] at written
    cases before with
    | nil => exact ⟨name, listed, (List.cons.inj written).2.symm⟩
    | cons b before =>
      have later : '&' ∈ name ++ [';'] := by
        rw [(List.cons.inj written).2]
        exact List.mem_append_right before List.mem_cons_self
      exact absurd later (not_mem_reference listed (by decide))
  · rw [form] at written
    have same : '&' ∈ [c] := written ▸ List.mem_append_right before List.mem_cons_self
    exact absurd (List.mem_singleton.mp same).symm other

/-- Each `&` in escaped text begins a predefined reference. By induction on the text: it is written
for the first character, or it stands in what is written for the others. -/
theorem reference_of_escaped {cs before after : List Char}
    (written : cs.flatMap escapeChar = before ++ '&' :: after) :
    ∃ name ∈ predefined, name ++ [';'] <+: after := by
  induction cs generalizing before with
  | nil => simp at written
  | cons c cs ih =>
    rw [List.flatMap_cons] at written
    rcases List.append_eq_append_iff.mp written with ⟨between, _, later⟩ | ⟨between, here, later⟩
    · exact ih later
    · cases between with
      | nil => exact @ih [] later.symm
      | cons b between =>
        obtain ⟨rfl, rfl⟩ := List.cons.inj later
        obtain ⟨name, listed, rfl⟩ := reference_of_escapeChar here
        exact ⟨name, listed, List.prefix_append _ _⟩

theorem inert_escaped (cs : List Char) : Inert (cs.flatMap escapeChar) where
  delimiters c member := by
    simpa [isDelimiter, and_assoc] using not_isDelimiter_of_mem_escaped member
  references _ _ written := reference_of_escaped written

theorem escape_append (s t : String) : escape (s ++ t) = escape s ++ escape t := by
  simp [escape, spell]

theorem value_eq_valueOfBytes (a : Attribute) : a.value = valueOfBytes (utf8Bytes (spell a.raw)) := by
  simp [valueOfBytes, Attribute.value, spell]

theorem valueOfBytes_escape (s : String) : valueOfBytes (utf8Bytes (escape s)) = .ok s := by
  simp [valueOfBytes, Attribute.value, unescape_escaped, spell]

/-- Escaped text is inert, is read back as the text it was made from, from its octets and in any
attribute, and is made character by character, so that parts of a text may be escaped on their
own. -/
theorem escape_inverts (s t : String) :
    Inert (escape s).toList ∧
      valueOfBytes (utf8Bytes (escape s)) = .ok s ∧
      (∀ name, Attribute.value ⟨name, (escape s).toList⟩ = .ok s) ∧
      escape (s ++ t) = escape s ++ escape t := by
  refine ⟨?_, valueOfBytes_escape s, fun name => ?_, escape_append s t⟩
  · rw [toList_escape]
    exact inert_escaped s.toList
  · rw [value_eq_valueOfBytes, spell, String.ofList_toList]
    exact valueOfBytes_escape s

example : escape "&amp;lt; &#" = "&amp;amp;lt; &amp;#" := by decide

end Bindery.Xml
