import Bindery.Proofs.Xml.Event

/-! Written outlines that break off. A cut that falls inside a tag leaves the tag open, and the scan
ends with a fault; any other cut falls between two pieces or into a short text, and the scan ends
with the tokens in front of it. -/
namespace Bindery.Xml

/-! ## Markup without an end -/

theorem scanFrom_open_instruction (mark : Bool) (seen : List Token) (cs : List Char)
    (within : '>' ∉ cs) : (scanFrom (.instruction mark) seen cs).2 ≠ none := by
  induction cs generalizing mark seen with
  | nil => exact Option.some_ne_none _
  | cons c cs ih =>
    have other : c ≠ '>' := fun same => within (same ▸ List.mem_cons_self)
    have step : Place.step (.instruction mark) c = .ok (.instruction (c == '?'), none) := by
      simp [Place.step, other]
    rw [scanFrom, step]
    exact ih _ _ fun member => within (List.mem_cons_of_mem c member)

theorem scanFrom_open_tag (inside : List Char) (quote : Option Char) (seen : List Token)
    (cs : List Char) (within : '>' ∉ cs) : (scanFrom (.tag inside quote) seen cs).2 ≠ none := by
  induction cs generalizing inside quote seen with
  | nil => exact Option.some_ne_none _
  | cons c cs ih =>
    have other : c ≠ '>' := fun same => within (same ▸ List.mem_cons_self)
    have step : Place.step (.tag inside quote) c =
        .ok (.tag (c :: inside) (quoteAfter quote c), none) := by
      simp [Place.step, other]
    rw [scanFrom, step]
    exact ih _ _ _ fun member => within (List.mem_cons_of_mem c member)

theorem scanFrom_open_start (seen : List Token) (cs : List Char) (within : '>' ∉ cs) :
    (scanFrom .instructionStart seen cs).2 ≠ none := by
  cases cs with
  | nil => exact Option.some_ne_none _
  | cons c cs =>
    have other : c ≠ '>' := fun same => within (same ▸ List.mem_cons_self)
    have step : Place.step .instructionStart c = .ok (.instruction (c == '?'), none) := by
      simp [Place.step, other]
    rw [scanFrom, step]
    exact scanFrom_open_instruction _ _ _ fun member => within (List.mem_cons_of_mem c member)

/-- What stands between the angle brackets of a tag or of a processing instruction. -/
structure IsInside (inside : List Char) : Prop where
  noMark : inside.head? ≠ some '!'
  within : '>' ∉ inside

theorem IsInside.fault {inside front : List Char} (tag : IsInside inside) (cut : front <+: inside)
    (data : List Char) (seen : List Token) :
    (scanFrom (.content data) seen ('<' :: front)).2 ≠ none := by
  have start : Place.step (.content data) '<' = .ok (.markup, textToken data) := rfl
  rw [scanFrom, start]
  cases front with
  | nil => exact Option.some_ne_none _
  | cons c front =>
    have outside : '>' ∉ c :: front := fun member => tag.within (cut.subset member)
    have noEnd : c ≠ '>' := fun same => outside (same ▸ List.mem_cons_self)
    have later : '>' ∉ front := fun member => outside (List.mem_cons_of_mem c member)
    have noMark : c ≠ '!' := by
      rintro rfl
      obtain ⟨back, rfl⟩ := cut
      exact tag.noMark rfl
    simp only []
    by_cases instruction : c = '?'
    · subst instruction
      exact scanFrom_open_start _ _ later
    · have first : Place.step .markup c = .ok (.tag [c] (quoteAfter none c), none) := by
        simp [Place.step, instruction, noMark, noEnd]
      rw [scanFrom, first]
      exact scanFrom_open_tag _ _ _ _ later

theorem isInside_start {name : String} {values : Values} (slash : List Char)
    (plain : PlainName name) (plainValues : values.Plain) (mark : slash = [] ∨ slash = ['/']) :
    IsInside (name.toList ++ values.render.toList ++ slash) := by
  constructor
  · obtain ⟨c, cs, letters, letter⟩ := plain.head
    rw [letters]
    rintro same
    obtain rfl : c = '!' := Option.some.inj same
    revert letter
    decide
  · exact not_mem_inside name values slash plain plainValues mark

theorem isInside_closing {name : String} (plain : PlainName name) :
    IsInside ('/' :: name.toList) := by
  constructor
  · simp
  · simp [plain.not_mem (d := '>') (by decide) (by decide)]

theorem Piece.Plain.render_eq {piece : Piece} (plain : piece.Plain) :
    (∃ inside, IsInside inside ∧ piece.render.toList = '<' :: inside ++ ['>']) ∨
      ∃ name content, piece = .text name content := by
  cases piece with
  | opening name values =>
    refine .inl ⟨_, isInside_start [] plain.1 plain.2 (.inl rfl), ?_⟩
    simp [Piece.render]
  | empty name values =>
    refine .inl ⟨_, isInside_start ['/'] plain.1 plain.2 (.inr rfl), ?_⟩
    simp [Piece.render]
  | closing name =>
    refine .inl ⟨_, isInside_closing plain, ?_⟩
    simp [Piece.render]
  | text name content => exact .inr ⟨name, content, rfl⟩

theorem Piece.render_concat (piece : Piece) : ∃ cs, piece.render.toList = cs ++ ['>'] := by
  cases piece with
  | opening name values => exact ⟨'<' :: (name.toList ++ values.render.toList), by simp [render]⟩
  | empty name values =>
    exact ⟨'<' :: (name.toList ++ values.render.toList ++ ['/']), by simp [render]⟩
  | closing name => exact ⟨'<' :: '/' :: name.toList, by simp [render]⟩
  | text name content =>
    exact ⟨'<' :: (name.toList ++ '>' :: (escape content).toList ++ '<' :: '/' :: name.toList),
      by simp [render]⟩

/-! ## Lines that break off -/

theorem prefix_append_cons {α : Type} {c : α} {front before behind : List α}
    (cut : front <+: before ++ c :: behind) :
    front <+: before ∨ ∃ back, front = before ++ c :: back ∧ back <+: behind := by
  induction before generalizing front with
  | nil =>
    cases front with
    | nil => exact .inl List.nil_prefix
    | cons d front =>
      obtain ⟨rfl, shorter⟩ := List.cons_prefix_cons.mp cut
      exact .inr ⟨front, rfl, shorter⟩
  | cons b before ih =>
    cases front with
    | nil => exact .inl List.nil_prefix
    | cons d front =>
      obtain ⟨rfl, shorter⟩ := List.cons_prefix_cons.mp cut
      rcases ih shorter with within | ⟨back, rfl, within⟩
      · exact .inl (List.cons_prefix_cons.mpr ⟨rfl, within⟩)
      · exact .inr ⟨back, rfl, within⟩

theorem scanFrom_blank_end (seen : List Token) (cs : List Char)
    (blank : ∀ c ∈ cs, isXmlBlank c = true) :
    scanFrom (.content []) seen cs = (seen.reverse, none) := by
  have found := scanFrom_blanks seen cs [] blank
  rw [List.append_nil] at found
  rw [found]
  rfl

/-- Where a line breaks off, and what a scan makes of the part in front. -/
inductive Line.Breaks (line : Line) (part : List Char) : Prop where
  | before (blank : ∀ c ∈ part, isXmlBlank c = true)
  | inTag (fault : ∀ seen, (scanFrom (.content []) seen part).2 ≠ none)
  | inText (name content : String) (read : List (List Char))
      (held : line.piece = .text name content)
      (scanned : ∀ seen, scanFrom (.content []) seen part =
        (seen.reverse ++ .opening (tagOf name []) :: read.map .text, none))
  | behind (whole : part = line.indent ++ line.piece.render.toList)

theorem IsInside.inTag {line : Line} {inside front : List Char} (tag : IsInside inside)
    (cut : front <+: inside) : line.Breaks (line.indent ++ '<' :: front) := by
  apply Line.Breaks.inTag
  intro seen
  rw [scanFrom_blanks seen _ _ line.isXmlBlank_indent]
  exact tag.fault cut [] seen

theorem plain_noValues : Values.Plain [] := Values.inner_nil.plain

theorem Line.scanFrom_text_start (line : Line) {name : String} (plain : PlainName name)
    (seen : List Token) (rest : List Char) :
    scanFrom (.content []) seen (line.indent ++ '<' :: (name.toList ++ '>' :: rest)) =
      scanFrom (.content []) (.opening (tagOf name []) :: seen) rest := by
  have found := scanFrom_start seen [] name [] [] rest plain plain_noValues (.inl rfl)
  rw [List.append_nil, ofInside_opening plain plain_noValues] at found
  rw [scanFrom_blanks seen _ _ line.isXmlBlank_indent]
  simpa [Values.render, textToken] using found

theorem scanFrom_content_end (data : List Char) :
    ∃ read : List (List Char), ∀ seen,
      scanFrom (.content data) seen [] = (seen.reverse ++ read.map .text, none) := by
  cases kept : data.dropWhile isXmlBlank with
  | nil =>
    refine ⟨[], fun seen => ?_⟩
    simp [scanFrom, Place.finish, textToken, kept]
  | cons c cs =>
    refine ⟨[(c :: cs).reverse], fun seen => ?_⟩
    simp [scanFrom, Place.finish, textToken, kept]

theorem Line.breaks_text {line : Line} {name content : String} {front : List Char}
    (plain : PlainName name) (solid : SolidText content) (held : line.piece = .text name content)
    (cut : front <+: name.toList ++ '>' :: (content.toList ++ '<' :: ('/' :: name.toList))) :
    line.Breaks (line.indent ++ '<' :: front) := by
  rcases prefix_append_cons cut with inStart | ⟨back, rfl, within⟩
  · have tag := isInside_start [] plain plain_noValues (.inl rfl)
    apply tag.inTag
    simpa [Values.render] using inStart
  rcases prefix_append_cons within with inContent | ⟨back, rfl, inEnd⟩
  · have short : ∀ c ∈ back, escapeChar c = [c] ∧ isXmlBlank c = false := fun c member =>
      solid.2 c (inContent.subset member)
    obtain ⟨read, ended⟩ := scanFrom_content_end back.reverse
    apply Line.Breaks.inText name content read held
    intro seen
    have scanned := scanFrom_text (.opening (tagOf name []) :: seen) [] back [] short
    rw [List.append_nil, List.append_nil] at scanned
    rw [line.scanFrom_text_start plain, scanned, ended]
    simp
  · apply Line.Breaks.inTag
    intro seen
    rw [line.scanFrom_text_start plain, scanFrom_text _ _ _ _ solid.2]
    exact (isInside_closing plain).fault inEnd _ _

theorem Line.breaks {line : Line} {part tail : List Char} (plain : line.piece.Plain)
    (cut : line.render.toList = part ++ tail) (more : tail ≠ []) : line.Breaks part := by
  have front : part <+: line.indent ++ line.piece.render.toList := by
    rw [line.toList_render] at cut
    rcases List.prefix_concat_iff.mp (⟨tail, cut.symm⟩ : part <+: _) with whole | front
    · rw [whole] at cut
      exact absurd (List.self_eq_append_right.mp cut) more
    · exact front
  have blank {part : List Char} (front : part <+: line.indent) : line.Breaks part := by
    apply Line.Breaks.before
    intro c member
    exact line.isXmlBlank_indent c (front.subset member)
  rcases plain.render_eq with ⟨inside, tag, form⟩ | ⟨name, content, held⟩
  · have layout : line.indent ++ line.piece.render.toList =
        (line.indent ++ '<' :: inside) ++ ['>'] := by
      rw [form]
      simp
    rw [layout] at front
    rcases List.prefix_concat_iff.mp front with whole | front
    · exact .behind (whole.trans layout.symm)
    · rcases prefix_append_cons front with before | ⟨back, rfl, within⟩
      · exact blank before
      · exact tag.inTag within
  · rw [held] at plain
    have layout : line.indent ++ line.piece.render.toList = (line.indent ++ '<' ::
        (name.toList ++ '>' :: (content.toList ++ '<' :: ('/' :: name.toList)))) ++ ['>'] := by
      simp [held, Piece.render, plain.2.escaped]
    rw [layout] at front
    rcases List.prefix_concat_iff.mp front with whole | front
    · exact .behind (whole.trans layout.symm)
    · rcases prefix_append_cons front with before | ⟨back, rfl, within⟩
      · exact blank before
      · exact Line.breaks_text plain.1 plain.2 held within

theorem Outline.exists_line {outline : Outline} {front rest : List Char}
    (cut : outline.render.toList = front ++ rest) (more : rest ≠ []) :
    ∃ (done : Outline) (line : Line) (later : Outline) (part tail : List Char),
      outline = done ++ line :: later ∧ front = done.render.toList ++ part ∧
      line.render.toList = part ++ tail ∧ tail ≠ [] ∧ rest = tail ++ later.render.toList := by
  simp only [Outline.toList_render] at cut ⊢
  induction outline generalizing front with
  | nil => exact absurd (List.append_eq_nil_iff.mp cut.symm).2 more
  | cons line outline ih =>
    rw [List.flatMap_cons] at cut
    have later {back : List Char} (behind : front = line.render.toList ++ back)
        (cut : outline.flatMap (·.render.toList) = back ++ rest) :
        ∃ (done : Outline) (next : Line) (later : Outline) (part tail : List Char),
          line :: outline = done ++ next :: later ∧
          front = done.flatMap (·.render.toList) ++ part ∧ next.render.toList = part ++ tail ∧
          tail ≠ [] ∧ rest = tail ++ later.flatMap (·.render.toList) := by
      obtain ⟨done, next, later, part, tail, rfl, rfl, ends⟩ := ih cut
      refine ⟨line :: done, next, later, part, tail, rfl, ?_, ends⟩
      rw [behind, List.flatMap_cons, List.append_assoc]
    rcases List.append_eq_append_iff.mp cut with ⟨back, behind, cut⟩ | ⟨tail, within, ends⟩
    · exact later behind cut
    · cases tail with
      | nil =>
        rw [List.append_nil] at within
        have cut : outline.flatMap (·.render.toList) = [] ++ rest := ends.symm
        exact later (by rw [within, List.append_nil]) cut
      | cons c tail =>
        exact ⟨[], line, outline, front, c :: tail, rfl, rfl, within, List.cons_ne_nil _ _, ends⟩

/-! ## Elements that stay open -/

/-- How many elements are open behind an event; no event ends more elements than are open. -/
def Event.depthAfter : Nat → Event → Option Nat
  | depth, .start .. => some (depth + 1)
  | 0, .stop => none
  | depth + 1, .stop => some depth
  | depth, .text _ => some depth

theorem Outline.Inner.balanced {outline : Outline} (inner : outline.Inner) (scope : Scope)
    (depth : Nat) : (outline.events scope).foldlM Event.depthAfter depth = some depth := by
  induction inner generalizing depth with
  | nil => rfl
  | append _ _ first second =>
    rw [Outline.events_append, List.foldlM_append, first depth]
    exact second depth
  | leaf _ _ => rfl
  | text _ _ => rfl
  | nest _ _ _ inside =>
    rw [Outline.events_nest, List.cons_append, List.foldlM_cons]
    change List.foldlM _ (depth + 1) _ = _
    rw [List.foldlM_append, inside (depth + 1)]
    rfl

theorem Outline.Inner.balanced_front {front back : Outline}
    (inner : Outline.Inner (front ++ back)) (scope : Scope) (depth : Nat) :
    ∃ still, (front.events scope).foldlM Event.depthAfter depth = some still := by
  have whole := inner.balanced scope depth
  rw [Outline.events_append, List.foldlM_append] at whole
  obtain ⟨still, found, -⟩ := Option.bind_eq_some_iff.mp whole
  exact ⟨still, found⟩

def Outline.deeper (outline : Outline) : Outline :=
  outline.map fun line => ⟨line.depth + 1, line.piece⟩

def Outline.begun (name : String) (values : Values) (within : Outline) : Outline :=
  ⟨0, .opening name values⟩ :: within.deeper

@[simp] theorem Outline.tokens_begun (name : String) (values : Values) (within : Outline) :
    (Outline.begun name values within).tokens =
      .opening (tagOf name values) :: within.tokens := by
  simp [Outline.begun, Outline.deeper, Outline.tokens, Piece.tokens, List.flatMap_map]

@[simp] theorem Outline.events_begun (scope : Scope) (name : String) (values : Values)
    (within : Outline) :
    (Outline.begun name values within).events scope =
      scope.start (tagOf name values) :: within.events scope := by
  simp [Outline.begun, Outline.deeper, Outline.events, Piece.events, List.flatMap_map]

theorem Outline.nest_eq_begun (name : String) (values : Values) (inside : Outline) :
    Outline.nest name values inside = begun name values inside ++ [⟨0, .closing name⟩] := rfl

/-- An element breaks off in front of its first line, in what it holds or behind its last line. -/
theorem Outline.cut_nest {name : String} {values : Values} {inside front back : Outline}
    (cut : Outline.nest name values inside = front ++ back) :
    front = [] ∨ back = [] ∨ ∃ within beyond, inside = within ++ beyond ∧
      front = begun name values within ∧ back = beyond.deeper ++ [⟨0, .closing name⟩] := by
  cases front with
  | nil => exact .inl rfl
  | cons line front =>
    right
    obtain ⟨rfl, lines⟩ := List.cons.inj cut
    have lines : inside.deeper ++ [⟨0, .closing name⟩] = front ++ back := lines
    rcases List.append_eq_append_iff.mp lines with ⟨more, behind, ends⟩ | ⟨more, within, ends⟩
    · rcases List.singleton_eq_append_iff.mp ends with ⟨rfl, rfl⟩ | ⟨rfl, rfl⟩
      · right
        exact ⟨inside, [], (List.append_nil _).symm, by rw [behind, List.append_nil, begun], rfl⟩
      · exact .inl rfl
    · right
      obtain ⟨first, second, rfl, rfl, rfl⟩ := List.map_eq_append_iff.mp within
      exact ⟨first, second, rfl, rfl, ends⟩

def Outline.Keeps (scope : Scope) (outline : Outline) : Prop :=
  ∀ nest : Nest, nest.scope = scope → ∃ nest' : Nest, nest'.scope = scope ∧
    ∀ seen fault rest, eventsFrom nest seen fault (outline.tokens ++ rest) =
      eventsFrom nest' ((outline.events scope).reverse ++ seen) fault rest

theorem Outline.keeps_nil (scope : Scope) : Outline.Keeps scope [] :=
  fun nest same => ⟨nest, same, fun _ _ _ => rfl⟩

theorem Outline.Inner.keeps {outline : Outline} (inner : outline.Inner) (scope : Scope) :
    outline.Keeps scope :=
  fun nest same => ⟨nest, same, eventsFrom_inner inner scope nest same⟩

theorem Outline.keeps_append {scope : Scope} {first second : Outline} (before : first.Keeps scope)
    (after : second.Keeps scope) : Outline.Keeps scope (first ++ second) := by
  intro nest same
  obtain ⟨between, same, atFirst⟩ := before nest same
  obtain ⟨nest', same, atSecond⟩ := after between same
  refine ⟨nest', same, fun seen fault rest => ?_⟩
  rw [tokens_append, List.append_assoc, atFirst, atSecond]
  simp

theorem Outline.keeps_begun {scope : Scope} {name : String} {values : Values} {within : Outline}
    (values' : values.Inner) (keeps : within.Keeps scope) :
    (Outline.begun name values within).Keeps scope := by
  intro nest same
  obtain ⟨nest', same', found⟩ := keeps ((name, scope) :: nest) rfl
  refine ⟨nest', same', fun seen fault rest => ?_⟩
  have start := nest_step_opening same (enter_inner scope name values')
  rw [tokens_begun, List.cons_append, eventsFrom, start]
  simp only [tagOf]
  rw [found]
  simp [tagOf]

theorem eventsFrom_texts (nest : Nest) (seen : List Event) (fault : Option MarkupFault)
    (read : List (List Char)) :
    eventsFrom nest seen fault (read.map .text) =
      (seen.reverse ++ read.map Event.text, fault) := by
  induction read generalizing seen with
  | nil => simp [eventsFrom]
  | cons content read ih =>
    have step : nest.step (.text content) = .ok (nest, [.text content]) := rfl
    rw [List.map_cons, eventsFrom, step]
    simp only [ih]
    simp

theorem Outline.Inner.keeps_front {outline : Outline} (inner : outline.Inner) (scope : Scope)
    {front back : Outline} (cut : outline = front ++ back) : front.Keeps scope := by
  induction inner generalizing front back with
  | nil =>
    obtain ⟨rfl, -⟩ := List.append_eq_nil_iff.mp cut.symm
    exact keeps_nil scope
  | append inFirst _ first second =>
    rcases List.append_eq_append_iff.mp cut with ⟨more, rfl, within⟩ | ⟨more, rfl, -⟩
    · exact keeps_append (inFirst.keeps scope) (second within)
    · exact first rfl
  | leaf plain values =>
    rcases List.singleton_eq_append_iff.mp cut with ⟨rfl, rfl⟩ | ⟨rfl, rfl⟩
    · exact keeps_nil scope
    · exact (Outline.Inner.leaf plain values).keeps scope
  | text plain solid =>
    rcases List.singleton_eq_append_iff.mp cut with ⟨rfl, rfl⟩ | ⟨rfl, rfl⟩
    · exact keeps_nil scope
    · exact (Outline.Inner.text plain solid).keeps scope
  | nest plain values inner inside =>
    rcases cut_nest cut with rfl | rfl | ⟨within, beyond, split, rfl, -⟩
    · exact keeps_nil scope
    · rw [List.append_nil] at cut
      subst cut
      exact (Outline.Inner.nest plain values inner).keeps scope
    · exact keeps_begun values (inside split)

end Bindery.Xml
