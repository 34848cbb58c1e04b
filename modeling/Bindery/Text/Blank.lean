/-! Blank characters: the Unicode property White_Space, the four blanks of XML, and trimming. -/
namespace Bindery

def isBlank (c : Char) : Bool :=
  ('\t' ≤ c && c ≤ '\r') || c == ' ' || c == '\u0085' || c == '\u00a0' || c == '\u1680' ||
    ('\u2000' ≤ c && c ≤ '\u200a') || c == '\u2028' || c == '\u2029' || c == '\u202f' ||
    c == '\u205f' || c == '\u3000'

def isXmlBlank (c : Char) : Bool := c == ' ' || c == '\t' || c == '\n' || c == '\r'

def trimStart (blank : α → Bool) (s : List α) : List α := s.dropWhile blank

def trimEnd (blank : α → Bool) (s : List α) : List α := (s.reverse.dropWhile blank).reverse

def trim (blank : α → Bool) (s : List α) : List α := trimEnd blank (trimStart blank s)

theorem trimEnd_append (blank : α → Bool) (s : List α) {blanks : List α}
    (all : ∀ c ∈ blanks, blank c = true) : trimEnd blank (s ++ blanks) = trimEnd blank s := by
  rw [trimEnd, List.reverse_append,
    List.dropWhile_append_of_pos fun c member => all c (List.mem_reverse.mp member), trimEnd]

theorem trimEnd_concat (blank : α → Bool) (s : List α) {c : α} (solid : blank c = false) :
    trimEnd blank (s ++ [c]) = s ++ [c] := by
  simp [trimEnd, solid]

theorem trimEnd_append_cons (blank : α → Bool) (s t : List α) {c : α} (solid : blank c = false) :
    trimEnd blank (s ++ c :: t) = s ++ c :: trimEnd blank t := by
  have kept : (c :: s.reverse).dropWhile blank = c :: s.reverse := by simp [solid]
  have form : (s ++ c :: t).reverse = t.reverse ++ (c :: s.reverse) := by simp
  rw [trimEnd, form, List.dropWhile_append, kept, trimEnd]
  cases t.reverse.dropWhile blank <;> simp

theorem eq_trimEnd_append (blank : α → Bool) (s : List α) :
    ∃ blanks, s = trimEnd blank s ++ blanks ∧ ∀ c ∈ blanks, blank c = true := by
  refine ⟨(s.reverse.takeWhile blank).reverse, ?_, ?_⟩
  · rw [trimEnd, ← List.reverse_append, List.takeWhile_append_dropWhile, List.reverse_reverse]
  · intro c member
    exact List.all_eq_true.mp List.all_takeWhile c (List.mem_reverse.mp member)

end Bindery
