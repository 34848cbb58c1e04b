import Bindery.Xml.Escape

/-! Escaped text. Each character is read back from what it is written as, whatever text stands
around it, and no written character can end a quoted value or begin markup. -/
namespace Bindery.Xml

theorem unescapeFrom_escapeChar (seen : List Char) (c : Char) (rest : List Char) :
    unescapeFrom seen none (escapeChar c ++ rest) = unescapeFrom (c :: seen) none rest := by
  unfold escapeChar
  split
  · subst c; rfl
  split
  · subst c; rfl
  split
  · subst c; rfl
  split
  · subst c; rfl
  split
  · subst c; rfl
  · rename_i plain _ _ _ _
    simp only [List.singleton_append, unescapeFrom, if_neg plain]

theorem unescapeFrom_escaped (seen cs : List Char) :
    unescapeFrom seen none (cs.flatMap escapeChar) = some (seen.reverse ++ cs) := by
  induction cs generalizing seen with
  | nil => simp [unescapeFrom]
  | cons c cs ih =>
    rw [List.flatMap_cons, unescapeFrom_escapeChar, ih]
    simp

theorem unescape_escaped (cs : List Char) : unescape? (cs.flatMap escapeChar) = some cs :=
  unescapeFrom_escaped [] cs

def isDelimiter (c : Char) : Bool := c == '<' || c == '>' || c == '"' || c == '\''

theorem not_isDelimiter_of_mem {cs : List Char} {d : Char}
    (none : cs.all (! isDelimiter ·) = true) (member : d ∈ cs) : isDelimiter d = false := by
  simpa using List.all_eq_true.mp none d member

theorem not_isDelimiter_of_mem_escapeChar {c d : Char} (member : d ∈ escapeChar c) :
    isDelimiter d = false := by
  unfold escapeChar at member
  split at member
  · exact not_isDelimiter_of_mem (by decide) member
  split at member
  · exact not_isDelimiter_of_mem (by decide) member
  split at member
  · exact not_isDelimiter_of_mem (by decide) member
  split at member
  · exact not_isDelimiter_of_mem (by decide) member
  split at member
  · exact not_isDelimiter_of_mem (by decide) member
  · obtain rfl := List.mem_singleton.mp member
    simp_all [isDelimiter]

theorem not_isDelimiter_of_mem_escaped {cs : List Char} {d : Char}
    (member : d ∈ cs.flatMap escapeChar) : isDelimiter d = false := by
  obtain ⟨c, _, member⟩ := List.mem_flatMap.mp member
  exact not_isDelimiter_of_mem_escapeChar member

@[simp] theorem toList_escape (s : String) : (escape s).toList = s.toList.flatMap escapeChar := by
  simp [escape, spell]

end Bindery.Xml
