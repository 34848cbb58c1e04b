import Bindery.Toml.Quoted
import Bindery.Toml.Token

/-! Written strings are scanned back. Each of the four forms leads a scan through the characters of
the string, whatever they are, and to its end. In the long forms a scan behind one or two quotes
cannot know yet whether they end the string; the part of the string that it holds leaves them out,
and so the invariant counts them apart. -/
namespace Bindery.Toml

/-- A scan goes through a text from one place to another and completes some tokens on the way,
whatever stands around the text. -/
def Takes (place : Place) (text : List Char) (tokens : List Token) (behind : Place) : Prop :=
  ∀ seen rest, scanFrom? place seen (text ++ rest) = scanFrom? behind (tokens.reverse ++ seen) rest

section

variable {place middle behind : Place} {text more : List Char} {tokens later : List Token} {c : Char}

theorem takes_nil (place : Place) : Takes place [] [] place := fun _ _ => rfl

theorem takes_of_step (step : place.step? c = some (behind, tokens)) :
    Takes place [c] tokens behind := by
  intro seen rest
  rw [List.singleton_append, scanFrom?, step]

theorem Takes.append (first : Takes place text tokens middle)
    (second : Takes middle more later behind) :
    Takes place (text ++ more) (tokens ++ later) behind := by
  intro seen rest
  rw [List.append_assoc, first, second, List.reverse_append, List.append_assoc]

theorem Takes.cons (step : place.step? c = some (middle, tokens))
    (second : Takes middle more later behind) :
    Takes place (c :: more) (tokens ++ later) behind :=
  (takes_of_step step).append second

/-- A scan sees no difference between two places that agree on the first character. -/
theorem Takes.of_step_eq (same : place.step? c = middle.step? c)
    (takes : Takes middle (c :: text) tokens behind) : Takes place (c :: text) tokens behind := by
  intro seen rest
  have through := takes seen rest
  rw [List.cons_append, scanFrom?] at through ⊢
  rw [same]
  exact through

end

/-! ## Inside a string -/

/-- The place in a string behind some quotes in a row, of which no more than two may stand in a long
string and none in any other. -/
def Place.behindQuotes (quote : Char) (long : Bool) (part : List Char) : (run : Nat) → Place
  | 0 => .string quote long part
  | run + 1 => .quotes quote part (run + 1)

def runLimit (long : Bool) : Nat := if long then 2 else 0

section

variable {quote : Char} {long : Bool} {part : List Char} {run : Nat} {c : Char}

theorem step?_behindQuotes (few : run ≤ runLimit long) (other : c ≠ quote) :
    (Place.behindQuotes quote long part run).step? c =
      (stringStep? quote long (List.replicate run quote ++ part) c).map (·, []) := by
  cases run with
  | zero => simp [Place.behindQuotes, Place.step?, other]
  | succ run =>
    cases long with
    | false => exact absurd few (Nat.not_succ_le_zero run)
    | true =>
      have small : run + 1 < 3 := Nat.lt_succ_of_le few
      simp only [Place.behindQuotes, Place.step?, if_neg other, if_pos small]

theorem takes_quote (few : run < 2) :
    Takes (.behindQuotes quote true part run) [quote] [] (.behindQuotes quote true part (run + 1)) := by
  apply takes_of_step
  match run, few with
  | 0, _ => simp [Place.behindQuotes, Place.step?]
  | 1, _ => simp [Place.behindQuotes, Place.step?]

theorem takes_char {next : Place} (few : run ≤ runLimit long) (other : c ≠ quote)
    (step : stringStep? quote long (List.replicate run quote ++ part) c = some next) :
    Takes (.behindQuotes quote long part run) [c] [] next := by
  apply takes_of_step
  rw [step?_behindQuotes few other, step]
  rfl

theorem stringStep?_plain (noEscape : c ≠ '\\' ∨ quote ≠ '"') (solid : isControl c = false) :
    stringStep? quote long part c = some (.string quote long (c :: part)) := by
  have noBreak : c ≠ '\n' ∧ c ≠ '\r' := by
    constructor <;> rintro rfl <;> cases solid
  have noSlash : ¬ (c = '\\' ∧ quote = '"') := fun both => noEscape.elim (· both.1) (· both.2)
  simp [stringStep?, noBreak, noSlash, solid]

/-! ## Escapes -/

theorem takes_backslash (few : run ≤ runLimit long) :
    Takes (.behindQuotes '"' long part run) ['\\'] []
      (.escape long (List.replicate run '"' ++ part)) :=
  takes_char few (by decide) (by simp [stringStep?])

theorem takes_escape {letter e : Char} (few : run ≤ runLimit long)
    (known : simpleEscape? letter = some e) :
    Takes (.behindQuotes '"' long part run) ['\\', letter] []
      (.string '"' long (e :: (List.replicate run '"' ++ part))) := by
  refine (takes_backslash few).append (takes_of_step ?_)
  simp [Place.step?, known]

theorem takes_digit {count left value d : Nat} (held : List Char) (hex : hexValue? c = some d)
    (more : left = count + 2) :
    Takes (.digits long held left value) [c] [] (.digits long held (count + 1) (16 * value + d)) := by
  apply takes_of_step
  subst more
  simp [Place.step?, hex]

theorem takes_lastDigit {value d : Nat} {e : Char} (held : List Char) (hex : hexValue? c = some d)
    (whole : 16 * value + d = e.toNat) :
    Takes (.digits long held 1 value) [c] [] (.string '"' long (e :: held)) := by
  have valid : e.toNat.isValidChar := e.valid
  apply takes_of_step
  simp [Place.step?, hex, whole, valid]

/-- A character whose number has no more than two digits is read back from its escape. -/
theorem takes_numericEscape (few : run ≤ runLimit long) (small : c.toNat < 256) :
    Takes (.behindQuotes '"' long part run) (numericEscape c) []
      (.string '"' long (c :: (List.replicate run '"' ++ part))) := by
  have zero : hexValue? '0' = some 0 := by decide
  have high := hexValue_hexDigit ⟨c.toNat / 16, by omega⟩
  have low := hexValue_hexDigit ⟨c.toNat % 16, by omega⟩
  simp only at high low
  have letter : Takes (.escape long (List.replicate run '"' ++ part)) ['u'] []
      (.digits long (List.replicate run '"' ++ part) 4 0) := takes_of_step rfl
  exact (takes_backslash few).append <| letter.append <| (takes_digit _ zero rfl).append <|
    (takes_digit _ zero rfl).append <| (takes_digit _ high rfl).append <|
    takes_lastDigit _ low (by omega)

def escapeLetter? (c : Char) : Option Char :=
  if c = '\x08' then some 'b'
  else if c = '\t' then some 't'
  else if c = '\n' then some 'n'
  else if c = '\x0c' then some 'f'
  else if c = '\r' then some 'r'
  else if c = '\\' then some '\\'
  else none

theorem simpleEscape?_escapeLetter {letter : Char} (known : escapeLetter? c = some letter) :
    simpleEscape? letter = some c := by
  unfold escapeLetter? at known
  repeat' split at known
  all_goals cases known
  all_goals subst c; rfl

def writtenChar (long : Bool) (c : Char) : List Char :=
  if c = '\n' ∧ long then ['\n']
  else
    match escapeLetter? c with
    | some letter => ['\\', letter]
    | none => if c < ' ' ∨ c = '\x7f' then numericEscape c else [c]

theorem escapeFrom_char (other : c ≠ '"') (s : List Char) :
    escapeFrom long run (c :: s) = writtenChar long c ++ escapeFrom long 0 s := by
  rw [escapeFrom, if_neg other, writtenChar]
  split
  · rfl
  · grind [escapeLetter?]

theorem solid_of_no_letter (none : escapeLetter? c = none) : c ≠ '\\' ∧ c ≠ '\r' := by
  constructor <;> rintro rfl <;> cases none

theorem takes_writtenChar (few : run ≤ runLimit long) (other : c ≠ '"') :
    Takes (.behindQuotes '"' long part run) (writtenChar long c) []
      (.string '"' long (c :: (List.replicate run '"' ++ part))) := by
  unfold writtenChar
  split
  · rename_i breaks
    obtain ⟨rfl, rfl⟩ := breaks
    exact takes_char few other rfl
  split
  · rename_i letter known
    exact takes_escape few (simpleEscape?_escapeLetter known)
  · rename_i unknown
    split
    · rename_i control
      refine takes_numericEscape few ?_
      rcases control with low | rfl
      · exact Nat.lt_trans low (by decide)
      · decide
    · rename_i solid
      refine takes_char few other (stringStep?_plain (.inl (solid_of_no_letter unknown).1) ?_)
      rw [not_or] at solid
      simp [isControl, solid.1, solid.2]

/-- One character more of an escaped string: what is written for it leads past it, and behind it
there are still few quotes in a row. -/
theorem escapeFrom_cons (few : run ≤ runLimit long) (part : List Char) (c : Char) (s : List Char) :
    ∃ written part' run', escapeFrom long run (c :: s) = written ++ escapeFrom long run' s ∧
      run' ≤ runLimit long ∧
      List.replicate run' '"' ++ part' = c :: (List.replicate run '"' ++ part) ∧
      Takes (.behindQuotes '"' long part run) written [] (.behindQuotes '"' long part' run') := by
  by_cases quotes : c = '"'
  · subst quotes
    by_cases more : run < runLimit long
    · have form : escapeFrom long run ('"' :: s) = ['"'] ++ escapeFrom long (run + 1) s := by
        rw [escapeFrom, if_pos rfl, ← runLimit, if_pos more]
        rfl
      cases long with
      | false => exact absurd more (Nat.not_lt_zero run)
      | true => exact ⟨_, part, run + 1, form, more, rfl, takes_quote more⟩
    · have form : escapeFrom long run ('"' :: s) = ['\\', '"'] ++ escapeFrom long 0 s := by
        rw [escapeFrom, if_pos rfl, ← runLimit, if_neg more]
        rfl
      exact ⟨_, _, 0, form, Nat.zero_le _, rfl, takes_escape few (by decide)⟩
  · exact ⟨_, _, 0, escapeFrom_char quotes s, Nat.zero_le _, rfl, takes_writtenChar few quotes⟩

theorem takes_escapeFrom (few : run ≤ runLimit long) (part s : List Char) :
    ∃ part' run', run' ≤ runLimit long ∧
      List.replicate run' '"' ++ part' = s.reverse ++ (List.replicate run '"' ++ part) ∧
      Takes (.behindQuotes '"' long part run) (escapeFrom long run s) []
        (.behindQuotes '"' long part' run') := by
  induction s generalizing part run with
  | nil => exact ⟨part, run, few, rfl, takes_nil _⟩
  | cons c s ih =>
    obtain ⟨written, middle, between, form, few', held, first⟩ := escapeFrom_cons few part c s
    obtain ⟨part', run', few'', held', second⟩ := ih few' middle
    refine ⟨part', run', few'', ?_, form ▸ first.append second⟩
    rw [held', held, List.reverse_cons, List.append_assoc, List.singleton_append]

end

/-! ## Strings as they are -/

def rowStep (quote : Char) (state : Nat × Nat) (c : Char) : Nat × Nat :=
  let run := if c = quote then state.2 + 1 else 0
  (max state.1 run, run)

theorem longestRun_eq (quote : Char) (s : List Char) :
    longestRun quote s = (s.foldl (rowStep quote) (0, 0)).1 := rfl

theorem le_longest (quote : Char) (s : List Char) (state : Nat × Nat) :
    state.1 ≤ (s.foldl (rowStep quote) state).1 := by
  induction s generalizing state with
  | nil => exact Nat.le_refl _
  | cons c s ih =>
    have here : state.1 ≤ (rowStep quote state c).1 := Nat.le_max_left _ _
    exact Nat.le_trans here (ih _)

/-- The row that stands last is no longer than the longest one. -/
theorem last_le_longest (quote c : Char) (s : List Char) (state : Nat × Nat) :
    (rowStep quote state c).2 ≤ ((c :: s).foldl (rowStep quote) state).1 := by
  have here : (rowStep quote state c).2 ≤ (rowStep quote state c).1 := Nat.le_max_right _ _
  exact Nat.le_trans here (le_longest quote s _)

theorem not_mem_of_longestRun {quote : Char} {s : List Char} (none : longestRun quote s = 0) :
    quote ∉ s := by
  intro member
  obtain ⟨front, rest, rfl⟩ := List.append_of_mem member
  rw [longestRun_eq, List.foldl_append] at none
  have row := last_le_longest quote quote rest (front.foldl (rowStep quote) (0, 0))
  rw [none] at row
  simp [rowStep] at row

theorem takes_longLiteral {best run : Nat} (part s : List Char)
    (plain : ∀ c ∈ s, needsEscape c = false)
    (few : (s.foldl (rowStep '\'') (best, run)).1 ≤ 2) (fewer : run ≤ 2) :
    ∃ part' run', run' ≤ 2 ∧
      List.replicate run' '\'' ++ part' = s.reverse ++ (List.replicate run '\'' ++ part) ∧
      Takes (.behindQuotes '\'' true part run) s [] (.behindQuotes '\'' true part' run') := by
  induction s generalizing part best run with
  | nil => exact ⟨part, run, fewer, rfl, takes_nil _⟩
  | cons c s ih =>
    have row := Nat.le_trans (last_le_longest '\'' c s (best, run)) few
    have later (d : Char) (member : d ∈ s) := plain d (List.mem_cons_of_mem c member)
    rw [List.foldl_cons] at few
    by_cases same : c = '\''
    · subst same
      simp only [rowStep, if_pos] at row few
      obtain ⟨part', run', few', held, takes⟩ := ih part later few row
      refine ⟨part', run', few', ?_, (takes_quote row).append takes⟩
      rw [held, List.replicate_succ, List.reverse_cons, List.append_assoc]
      rfl
    · simp only [rowStep, if_neg same] at few
      obtain ⟨part', run', few', held, takes⟩ := ih (c :: (List.replicate run '\'' ++ part)) later
        few (Nat.zero_le 2)
      have step : stringStep? '\'' true (List.replicate run '\'' ++ part) c =
          some (.string '\'' true (c :: (List.replicate run '\'' ++ part))) := by
        by_cases breaks : c = '\n'
        · subst breaks
          rfl
        · refine stringStep?_plain (.inr (by decide)) ?_
          have solid := plain c List.mem_cons_self
          simp_all [needsEscape, isControl]
      refine ⟨part', run', few', ?_, (takes_char fewer same step).append takes⟩
      rw [held, List.reverse_cons, List.append_assoc]
      rfl

theorem takes_literal (part s : List Char)
    (plain : ∀ c ∈ s, needsEscape c = false ∧ c ≠ '\'' ∧ c ≠ '\n') :
    Takes (.string '\'' false part) s [] (.string '\'' false (s.reverse ++ part)) := by
  induction s generalizing part with
  | nil => exact takes_nil _
  | cons c s ih =>
    obtain ⟨solid, other, noBreak⟩ := plain c List.mem_cons_self
    have step : stringStep? '\'' false part c = some (.string '\'' false (c :: part)) := by
      refine stringStep?_plain (.inr (by decide)) ?_
      simp_all [needsEscape, isControl]
    have first : Takes (.behindQuotes '\'' false part 0) [c] [] (.string '\'' false (c :: part)) :=
      takes_char (Nat.zero_le _) other step
    have rest := ih (c :: part) fun d member => plain d (List.mem_cons_of_mem c member)
    rw [List.reverse_cons, List.append_assoc]
    exact first.append rest

/-! ## The quotes around a string -/

section

variable {quote : Char} (mark : quote = '"' ∨ quote = '\'')

include mark

/-- A short string that is not empty begins with its first character. -/
theorem takes_shortString {body s : List Char} (other : body.head? ≠ some quote)
    (empty : body = [] → s = [])
    (inside : Takes (.string quote false []) body [] (.string quote false s.reverse)) :
    Takes (.opened quote) (body ++ [quote, '\n']) [.text false s, .mark '\n'] .gap := by
  have closes : Takes (.string quote false s.reverse) [quote, '\n'] [.text false s, .mark '\n']
      .gap := by
    intro seen rest
    simp [scanFrom?, Place.step?, gapStep?, isBlank]
  cases body with
  | nil =>
    rw [empty rfl]
    rcases mark with rfl | rfl <;> exact fun seen rest => rfl
  | cons c body =>
    have apart : c ≠ quote := fun same => other (congrArg some same)
    refine Takes.of_step_eq ?_ (inside.append closes)
    simp [Place.step?, apart]

theorem takes_closing {part : List Char} {run : Nat} (few : run ≤ 2) :
    Takes (.behindQuotes quote true part run) [quote, quote, quote, '\n']
      [.text true (List.replicate run quote ++ part).reverse, .mark '\n'] .gap := by
  match run, few with
  | 0, _ => rcases mark with rfl | rfl <;> exact fun seen rest => rfl
  | 1, _ => rcases mark with rfl | rfl <;> exact fun seen rest => rfl
  | 2, _ => rcases mark with rfl | rfl <;> exact fun seen rest => rfl

omit mark in
theorem step?_longStart {c : Char} (noBreak : c ≠ '\n' ∧ c ≠ '\r') :
    (Place.longStart quote).step? c = (Place.string quote true []).step? c := by
  simp [Place.step?, noBreak]

/-- A line break at the beginning of a long string does not count. It may be left out in front of
any other character. -/
theorem takes_longString {lead body s part : List Char} {run : Nat} (few : run ≤ 2)
    (held : List.replicate run quote ++ part = s.reverse)
    (start : lead = ['\n'] ∨ lead = [] ∧ ∀ c, body.head? = some c → c ≠ '\n' ∧ c ≠ '\r')
    (inside : Takes (.string quote true []) body [] (.behindQuotes quote true part run)) :
    Takes (.opened quote) (quote :: quote :: (lead ++ (body ++ [quote, quote, quote, '\n'])))
      [.text true s, .mark '\n'] .gap := by
  have through : Takes (.string quote true []) (body ++ [quote, quote, quote, '\n'])
      [.text true s, .mark '\n'] .gap := by
    have closes : Takes (.behindQuotes quote true part run) _ _ .gap := takes_closing mark few
    rw [held, List.reverse_reverse] at closes
    exact inside.append closes
  have opens : Takes (.longStart quote) (lead ++ (body ++ [quote, quote, quote, '\n']))
      [.text true s, .mark '\n'] .gap := by
    rcases start with rfl | ⟨rfl, noBreak⟩
    · exact Takes.cons (show (Place.longStart quote).step? '\n' = some (_, []) by
        simp [Place.step?]) through
    · cases body with
      | nil =>
        refine Takes.of_step_eq (step?_longStart ?_) through
        rcases mark with rfl | rfl <;> decide
      | cons c body => exact Takes.of_step_eq (step?_longStart (noBreak c rfl)) through
  have first : (Place.opened quote).step? quote = some (.openedTwice quote, []) := by
    simp [Place.step?]
  have second : (Place.openedTwice quote).step? quote = some (.longStart quote, []) := by
    simp [Place.step?]
  exact Takes.cons first (Takes.cons second opens)

end

theorem writtenChar_eq_cons (long : Bool) (c : Char) :
    ∃ first rest, writtenChar long c = first :: rest ∧ (first = '\\' ∨ first = c ∧ c ≠ '\r') := by
  unfold writtenChar
  split
  · rename_i breaks
    exact ⟨_, _, rfl, .inr ⟨breaks.1.symm, by rw [breaks.1]; decide⟩⟩
  split
  · exact ⟨_, _, rfl, .inl rfl⟩
  · rename_i unknown
    split
    · exact ⟨_, _, rfl, .inl rfl⟩
    · exact ⟨_, _, rfl, .inr ⟨rfl, (solid_of_no_letter unknown).2⟩⟩

theorem head?_escapeFrom {long : Bool} {s : List Char} {first : Char}
    (begins : (escapeFrom long 0 s).head? = some first) :
    first ≠ '\r' ∧ (first = '\n' → '\n' ∈ s) ∧ (first = '"' → long = true) := by
  cases s with
  | nil => cases begins
  | cons c s =>
    by_cases quotes : c = '"'
    · subst quotes
      cases long with
      | true =>
        obtain rfl : '"' = first := Option.some.inj begins
        exact ⟨by decide, nofun, fun _ => rfl⟩
      | false =>
        obtain rfl : '\\' = first := Option.some.inj begins
        exact ⟨by decide, nofun, nofun⟩
    · obtain ⟨d, rest, form, kind⟩ := writtenChar_eq_cons long c
      rw [escapeFrom_char quotes, form] at begins
      obtain rfl : d = first := Option.some.inj begins
      rcases kind with rfl | ⟨rfl, noReturn⟩
      · exact ⟨by decide, nofun, nofun⟩
      · exact ⟨noReturn, fun same => same ▸ List.mem_cons_self, fun same => absurd same quotes⟩

theorem eq_nil_of_escapeFrom {long : Bool} {s : List Char} (empty : escapeFrom long 0 s = []) :
    s = [] := by
  cases s with
  | nil => rfl
  | cons c s =>
    by_cases quotes : c = '"'
    · subst quotes
      cases long <;> cases empty
    · obtain ⟨d, rest, form, _⟩ := writtenChar_eq_cons long c
      rw [escapeFrom_char quotes, form] at empty
      cases empty

/-! ## The four forms -/

theorem needsEscape_of_any {s : List Char} (none : s.any needsEscape = false) {c : Char}
    (member : c ∈ s) : needsEscape c = false := by
  simpa using List.any_eq_false.mp none c member

theorem plain_of_literal {s : List Char} (form : Form.of s = .literal) :
    ∀ c ∈ s, needsEscape c = false ∧ c ≠ '\'' ∧ c ≠ '\n' := by
  have facts : s.any needsEscape = false ∧ longestRun '\'' s = 0 ∧ s.contains '\n' = false := by
    unfold Form.of at form
    dsimp only at form
    split at form
    · cases form
    split at form
    · rename_i kept
      simpa [and_assoc] using kept
    repeat' split at form
    all_goals cases form
  obtain ⟨solid, quotes, breaks⟩ := facts
  intro c member
  refine ⟨needsEscape_of_any solid member, ?_, ?_⟩
  · rintro rfl
    exact not_mem_of_longestRun quotes member
  · rintro rfl
    rw [List.contains_iff_mem.mpr member] at breaks
    cases breaks

theorem plain_of_longLiteral {s : List Char} (form : Form.of s = .longLiteral) :
    (∀ c ∈ s, needsEscape c = false) ∧ longestRun '\'' s ≤ 2 := by
  have facts : s.any needsEscape = false ∧ longestRun '\'' s ≤ 2 := by
    unfold Form.of at form
    dsimp only at form
    split at form
    · cases form
    split at form
    · cases form
    split at form
    · cases form
    split at form
    · rename_i kept
      simpa using kept
    split at form <;> cases form
  exact ⟨fun c member => needsEscape_of_any facts.1 member, facts.2⟩

theorem lead_cases {s body : List Char}
    (breaks : ∀ c, body.head? = some c → c ≠ '\r' ∧ (c = '\n' → '\n' ∈ s)) :
    let lead := if s.contains '\n' then ['\n'] else []
    lead = ['\n'] ∨ lead = [] ∧ ∀ c, body.head? = some c → c ≠ '\n' ∧ c ≠ '\r' := by
  cases found : s.contains '\n' with
  | true => exact .inl rfl
  | false =>
    refine .inr ⟨rfl, fun c begins => ⟨?_, (breaks c begins).1⟩⟩
    intro same
    rw [List.contains_iff_mem.mpr ((breaks c begins).2 same)] at found
    cases found

/-- A long string with its quotes and its first line break, and the line behind it. -/
theorem takes_long {quote : Char} (mark : quote = '"' ∨ quote = '\'') {body s part : List Char}
    {run : Nat} (few : run ≤ 2) (held : List.replicate run quote ++ part = s.reverse)
    (breaks : ∀ c, body.head? = some c → c ≠ '\r' ∧ (c = '\n' → '\n' ∈ s))
    (inside : Takes (.string quote true []) body [] (.behindQuotes quote true part run)) :
    Takes (.opened quote) ([quote, quote] ++ (if s.contains '\n' then ['\n'] else []) ++ body ++
      [quote, quote, quote] ++ ['\n']) [.text true s, .mark '\n'] .gap := by
  have through := takes_longString mark few held (lead_cases breaks) inside
  simpa using through

theorem takes_quoted (s : List Char) : ∃ quote long rest, (quote = '"' ∨ quote = '\'') ∧
    quoted s = quote :: rest ∧
    Takes (.opened quote) (rest ++ ['\n']) [.text long s, .mark '\n'] .gap := by
  cases form : Form.of s with
  | basic =>
    refine ⟨'"', false, escapeFrom false 0 s ++ ['"'], .inl rfl, by simp [quoted, form], ?_⟩
    have few : 0 ≤ runLimit false := Nat.zero_le _
    obtain ⟨part, run, few, held, inside⟩ := takes_escapeFrom few [] s
    obtain rfl := Nat.le_zero.mp few
    obtain rfl : part = s.reverse := by simpa using held
    rw [List.append_assoc]
    refine takes_shortString (.inl rfl) ?_ eq_nil_of_escapeFrom inside
    intro begins
    cases (head?_escapeFrom begins).2.2 rfl
  | literal =>
    refine ⟨'\'', false, s ++ ['\''], .inr rfl, by simp [quoted, form], ?_⟩
    have plain := plain_of_literal form
    have inside := takes_literal [] s plain
    rw [List.append_nil] at inside
    rw [List.append_assoc]
    refine takes_shortString (.inr rfl) ?_ id inside
    intro begins
    exact (plain '\'' (List.mem_of_head? begins)).2.1 rfl
  | longBasic =>
    have few : 0 ≤ runLimit true := Nat.zero_le _
    obtain ⟨part, run, few, held, inside⟩ := takes_escapeFrom few [] s
    rw [List.replicate_zero, List.nil_append, List.append_nil] at held
    have through := takes_long (.inl rfl) few held
      (fun c begins => ⟨(head?_escapeFrom begins).1, (head?_escapeFrom begins).2.1⟩) inside
    exact ⟨'"', true, _, .inl rfl, by rw [quoted, form]; rfl, through⟩
  | longLiteral =>
    obtain ⟨plain, few⟩ := plain_of_longLiteral form
    obtain ⟨part, run, few, held, inside⟩ := takes_longLiteral [] s plain few (Nat.zero_le 2)
    rw [List.replicate_zero, List.nil_append, List.append_nil] at held
    have breaks (c : Char) (begins : s.head? = some c) : c ≠ '\r' ∧ (c = '\n' → '\n' ∈ s) := by
      have member := List.mem_of_head? begins
      refine ⟨?_, fun same => same ▸ member⟩
      rintro rfl
      cases plain '\r' member
    have through := takes_long (.inr rfl) few held breaks inside
    exact ⟨'\'', true, _, .inr rfl, by rw [quoted, form]; rfl, through⟩

end Bindery.Toml
