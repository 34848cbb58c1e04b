import Bindery.Proofs.Xml.Attribute
import Bindery.Xml.Token

/-! Outlines as tokens. A scan of a written outline finds the tokens of its pieces, one line after
the other; the blanks around the lines yield nothing. -/
namespace Bindery.Xml

def SolidText (content : String) : Prop :=
  content.toList ≠ [] ∧ ∀ c ∈ content.toList, escapeChar c = [c] ∧ isXmlBlank c = false

def Piece.Plain : Piece → Prop
  | opening name values => PlainName name ∧ values.Plain
  | empty name values => PlainName name ∧ values.Plain
  | closing name => PlainName name
  | text name content => PlainName name ∧ SolidText content

def tagOf (name : String) (values : Values) : Tag := ⟨name, values.render.toList⟩

def Piece.tokens : Piece → List Token
  | opening name values => [.opening (tagOf name values)]
  | empty name values => [.empty (tagOf name values)]
  | closing name => [.closing name]
  | text name content => [.opening (tagOf name []), .text content.toList, .closing name]

/-! ## Quotes in tags -/

theorem quoteAfter_open (cs : List Char) (inside : ∀ c ∈ cs, c ≠ '"') :
    cs.foldl quoteAfter (some '"') = some '"' := by
  induction cs with
  | nil => rfl
  | cons c cs ih =>
    have here : quoteAfter (some '"') c = some '"' := by
      simp [quoteAfter, inside c List.mem_cons_self]
    rw [List.foldl_cons, here, ih fun d hd => inside d (List.mem_cons_of_mem c hd)]

theorem quoteAfter_none (cs : List Char) (outside : ∀ c ∈ cs, isQuote c = false) :
    cs.foldl quoteAfter none = none := by
  induction cs with
  | nil => rfl
  | cons c cs ih =>
    have here : quoteAfter none c = none := by
      simp [quoteAfter, outside c List.mem_cons_self]
    rw [List.foldl_cons, here, ih fun d hd => outside d (List.mem_cons_of_mem c hd)]

theorem quoteAfter_written (item : String × String) (plain : PlainName item.1) :
    (Attribute.ofValue item).written.foldl quoteAfter none = none := by
  have value : (item.2.toList.flatMap escapeChar).foldl quoteAfter (some '"') = some '"' := by
    apply quoteAfter_open
    rintro c member rfl
    exact absurd (not_isDelimiter_of_mem_escaped member) (by decide)
  have name := quoteAfter_none item.1.toList plain.not_quote
  simp only [Attribute.written, Attribute.ofValue, List.foldl_append, List.foldl_cons,
    List.foldl_nil, List.cons_append]
  rw [show quoteAfter none ' ' = none from rfl, name, show quoteAfter none '=' = none from rfl,
    show quoteAfter none '"' = some '"' from rfl, value]
  rfl

theorem quoteAfter_render (values : Values) (plain : values.Plain) :
    values.render.toList.foldl quoteAfter none = none := by
  have names := fun item (member : item ∈ values.present) =>
    plain.names item.1 (mem_names_of_mem_present member)
  rw [toList_render_values]
  revert names
  induction values.present with
  | nil => intro _; rfl
  | cons item items ih =>
    intro names
    rw [List.map_cons, List.flatMap_cons, List.foldl_append,
      quoteAfter_written item (names item List.mem_cons_self)]
    exact ih fun i hi => names i (List.mem_cons_of_mem item hi)

/-! ## The end of a tag -/

theorem not_mem_written (item : String × String) (plain : PlainName item.1) :
    '>' ∉ (Attribute.ofValue item).written := by
  have name := plain.not_mem (d := '>') (by decide) (by decide)
  have value : '>' ∉ item.2.toList.flatMap escapeChar := fun member =>
    absurd (not_isDelimiter_of_mem_escaped member) (by decide)
  simp [Attribute.written, Attribute.ofValue, name, value]

theorem not_mem_render (values : Values) (plain : values.Plain) :
    '>' ∉ values.render.toList := by
  rw [toList_render_values]
  intro member
  obtain ⟨a, listed, inside⟩ := List.mem_flatMap.mp member
  obtain ⟨item, present, rfl⟩ := List.mem_map.mp listed
  exact not_mem_written item (plain.names item.1 (mem_names_of_mem_present present)) inside

/-- A tag whose quotes are closed ends at the first closing angle bracket. -/
theorem scanFrom_tag (seen : List Token) (inside : List Char) (quote : Option Char)
    (cs rest : List Char) (within : '>' ∉ cs) (closed : cs.foldl quoteAfter quote = none) :
    scanFrom (.tag inside quote) seen (cs ++ '>' :: rest) =
      scanFrom (.content []) (Token.ofInside (inside.reverse ++ cs) :: seen) rest := by
  induction cs generalizing inside quote with
  | nil =>
    obtain rfl : quote = none := closed
    simp [scanFrom, Place.step]
  | cons c cs ih =>
    have other : c ≠ '>' := fun same => within (same ▸ List.mem_cons_self)
    have step : Place.step (.tag inside quote) c =
        .ok (.tag (c :: inside) (quoteAfter quote c), none) := by
      simp [Place.step, other]
    rw [List.cons_append, scanFrom, step]
    simpa using ih (c :: inside) (quoteAfter quote c)
      (fun member => within (List.mem_cons_of_mem c member)) closed

theorem scanFrom_markup (seen : List Token) (data : List Char) (c : Char) (cs rest : List Char)
    (name : c.isAlpha = true ∨ c = ':' ∨ c = '/') (within : '>' ∉ cs)
    (closed : (c :: cs).foldl quoteAfter none = none) :
    scanFrom (.content data) seen ('<' :: (c :: cs) ++ '>' :: rest) =
      scanFrom (.content []) (Token.ofInside (c :: cs) :: ((textToken data).toList ++ seen))
        rest := by
  have start : Place.step (.content data) '<' = .ok (.markup, textToken data) := rfl
  have noMark : c ≠ '?' ∧ c ≠ '!' ∧ c ≠ '>' := by
    rcases name with alpha | rfl | rfl
    · exact ⟨ne_of_isAlpha alpha (by decide), ne_of_isAlpha alpha (by decide),
        ne_of_isAlpha alpha (by decide)⟩
    · decide
    · decide
  have first : Place.step .markup c = .ok (.tag [c] (quoteAfter none c), none) := by
    simp [Place.step, noMark]
  rw [List.cons_append, scanFrom, start]
  simp only [List.cons_append]
  rw [scanFrom, first]
  exact scanFrom_tag _ [c] _ cs rest within closed

/-! ## What a tag is read as -/

theorem tag_startTag (values : Values) (name : String) :
    (values.startTag name).tag = tagOf name values := by
  rw [StartTag.tag, behindName_startTag]
  simp [Values.startTag, tagOf, spell]

theorem inside_startTag (values : Values) (name : String) :
    (values.startTag name).inside = name.toList ++ values.render.toList := by
  rw [StartTag.inside, behindName_startTag]
  rfl

theorem ofInside_opening {name : String} {values : Values} (plain : PlainName name)
    (plainValues : values.Plain) :
    Token.ofInside (name.toList ++ values.render.toList) = .opening (tagOf name values) := by
  rw [← inside_startTag, (wellFormed_startTag plain plainValues).ofInside_opening, tag_startTag]

theorem ofInside_empty {name : String} {values : Values} (plain : PlainName name)
    (plainValues : values.Plain) :
    Token.ofInside (name.toList ++ values.render.toList ++ ['/']) =
      .empty (tagOf name values) := by
  rw [← inside_startTag, (wellFormed_startTag plain plainValues).ofInside_empty, tag_startTag]

theorem ofInside_closing {name : String} (plain : PlainName name) :
    Token.ofInside ('/' :: name.toList) = .closing name := by
  have closed := plain.isName.ofInside_closing (show AllBlank [] by decide)
  simpa [spell] using closed

/-! ## Pieces, lines and outlines -/

theorem PlainName.head {name : String} (plain : PlainName name) :
    ∃ c cs, name.toList = c :: cs ∧ (c.isAlpha = true ∨ c = ':') := by
  cases letters : name.toList with
  | nil => exact absurd letters plain.1
  | cons c cs => exact ⟨c, cs, rfl, plain.2 c (letters ▸ List.mem_cons_self)⟩

theorem not_mem_inside (name : String) (values : Values) (slash : List Char)
    (plain : PlainName name) (plainValues : values.Plain) (mark : slash = [] ∨ slash = ['/']) :
    '>' ∉ name.toList ++ values.render.toList ++ slash := by
  have outside : '>' ∉ slash := by rcases mark with rfl | rfl <;> decide
  have within := plain.not_mem (d := '>') (by decide) (by decide)
  simp [within, not_mem_render values plainValues, outside]

theorem scanFrom_start (seen : List Token) (data : List Char) (name : String) (values : Values)
    (slash rest : List Char) (plain : PlainName name) (plainValues : values.Plain)
    (mark : slash = [] ∨ slash = ['/']) :
    scanFrom (.content data) seen
        ('<' :: (name.toList ++ values.render.toList ++ slash) ++ '>' :: rest) =
      scanFrom (.content [])
        (Token.ofInside (name.toList ++ values.render.toList ++ slash) ::
          ((textToken data).toList ++ seen)) rest := by
  obtain ⟨c, cs, letters, letter⟩ := plain.head
  have within := not_mem_inside name values slash plain plainValues mark
  have closed : (name.toList ++ values.render.toList ++ slash).foldl quoteAfter none = none := by
    rw [List.foldl_append, List.foldl_append, quoteAfter_none _ plain.not_quote,
      quoteAfter_render values plainValues]
    rcases mark with rfl | rfl <;> rfl
  rw [letters, List.cons_append, List.cons_append] at within closed ⊢
  refine scanFrom_markup seen data c _ rest ?_
    (fun member => within (List.mem_cons_of_mem c member)) closed
  exact letter.imp_right .inl

theorem scanFrom_closing (seen : List Token) (data : List Char) (name : String) (rest : List Char)
    (plain : PlainName name) :
    scanFrom (.content data) seen ('<' :: '/' :: name.toList ++ '>' :: rest) =
      scanFrom (.content []) (.closing name :: ((textToken data).toList ++ seen)) rest := by
  have within := plain.not_mem (d := '>') (by decide) (by decide)
  have closed : ('/' :: name.toList).foldl quoteAfter none = none :=
    quoteAfter_none name.toList plain.not_quote
  rw [← ofInside_closing plain]
  exact scanFrom_markup seen data '/' name.toList rest (.inr (.inr rfl)) within closed

theorem scanFrom_text (seen : List Token) (data cs rest : List Char)
    (solid : ∀ c ∈ cs, escapeChar c = [c] ∧ isXmlBlank c = false) :
    scanFrom (.content data) seen (cs ++ rest) =
      scanFrom (.content (cs.reverse ++ data)) seen rest := by
  induction cs generalizing data with
  | nil => rfl
  | cons c cs ih =>
    obtain ⟨plain, notBlank⟩ := solid c List.mem_cons_self
    have noMarkup : c ≠ '<' ∧ c ≠ '&' := by
      constructor
      · rintro rfl; exact absurd plain (by decide)
      · rintro rfl; exact absurd plain (by decide)
    have step : Place.step (.content data) c = .ok (.content (c :: data), none) := by
      simp [Place.step, noMarkup, notBlank]
    rw [List.cons_append, scanFrom, step]
    simpa using ih (c :: data) fun d hd => solid d (List.mem_cons_of_mem c hd)

theorem SolidText.token {content : String} (solid : SolidText content) :
    textToken content.toList.reverse = some (.text content.toList) := by
  cases back : content.toList.reverse with
  | nil => exact absurd (List.reverse_eq_nil_iff.mp back) solid.1
  | cons c cs =>
    have member : c ∈ content.toList := List.mem_reverse.mp (back ▸ List.mem_cons_self)
    have keep : (c :: cs).dropWhile isXmlBlank = c :: cs := by
      simp [(solid.2 c member).2]
    simp only [textToken, keep]
    rw [← back, List.reverse_reverse]

theorem SolidText.escaped {content : String} (solid : SolidText content) :
    (escape content).toList = content.toList := by
  rw [toList_escape]
  have each := fun c member => (solid.2 c member).1
  revert each
  induction content.toList with
  | nil => intro _; rfl
  | cons c cs ih =>
    intro each
    rw [List.flatMap_cons, each c List.mem_cons_self,
      ih fun d hd => each d (List.mem_cons_of_mem c hd)]
    rfl

theorem scanFrom_piece (seen : List Token) (piece : Piece) (rest : List Char)
    (plain : piece.Plain) :
    scanFrom (.content []) seen (piece.render.toList ++ rest) =
      scanFrom (.content []) (piece.tokens.reverse ++ seen) rest := by
  cases piece with
  | opening name values =>
    have found := scanFrom_start seen [] name values [] rest plain.1 plain.2 (.inl rfl)
    rw [List.append_nil, ofInside_opening plain.1 plain.2] at found
    simpa [Piece.render, Piece.tokens, textToken] using found
  | empty name values =>
    have found := scanFrom_start seen [] name values ['/'] rest plain.1 plain.2 (.inr rfl)
    rw [ofInside_empty plain.1 plain.2] at found
    simpa [Piece.render, Piece.tokens, textToken] using found
  | closing name =>
    have found := scanFrom_closing seen [] name rest plain
    simpa [Piece.render, Piece.tokens, textToken] using found
  | text name content =>
    obtain ⟨plain, solid⟩ := plain
    have noValues : Values.Plain [] := ⟨by simp, List.nodup_nil⟩
    have start := scanFrom_start seen [] name [] []
      (content.toList ++ ('<' :: '/' :: name.toList ++ '>' :: rest)) plain noValues (.inl rfl)
    rw [List.append_nil, ofInside_opening plain noValues] at start
    have within := scanFrom_text (.opening (tagOf name []) :: seen) [] content.toList
      ('<' :: '/' :: name.toList ++ '>' :: rest) solid.2
    have stop := scanFrom_closing (.opening (tagOf name []) :: seen) content.toList.reverse name
      rest plain
    rw [solid.token] at stop
    rw [List.append_nil, stop] at within
    have whole := start.trans within
    simpa [Piece.render, Piece.tokens, Values.render, solid.escaped, textToken] using whole

theorem scanFrom_blanks (seen : List Token) (cs rest : List Char)
    (blank : ∀ c ∈ cs, isXmlBlank c = true) :
    scanFrom (.content []) seen (cs ++ rest) = scanFrom (.content []) seen rest := by
  induction cs with
  | nil => rfl
  | cons c cs ih =>
    have here := blank c List.mem_cons_self
    have noMarkup : c ≠ '<' ∧ c ≠ '&' := by
      constructor
      · rintro rfl; exact absurd here (by decide)
      · rintro rfl; exact absurd here (by decide)
    have step : Place.step (.content []) c = .ok (.content [], none) := by
      simp [Place.step, noMarkup, here]
    rw [List.cons_append, scanFrom, step]
    exact ih fun d hd => blank d (List.mem_cons_of_mem c hd)

def Line.indent (line : Line) : List Char := List.replicate (2 * line.depth) ' '

theorem Line.toList_render (line : Line) :
    line.render.toList = line.indent ++ line.piece.render.toList ++ ['\n'] := by
  simp [Line.render, Line.indent]

theorem Line.isXmlBlank_indent (line : Line) : ∀ c ∈ line.indent, isXmlBlank c = true := by
  intro c member
  rw [List.eq_of_mem_replicate member]
  decide

theorem isXmlBlank_lineBreak : ∀ c ∈ ['\n'], isXmlBlank c = true := by
  intro c member
  rw [List.mem_singleton.mp member]
  decide

theorem scanFrom_line (seen : List Token) (line : Line) (rest : List Char)
    (plain : line.piece.Plain) :
    scanFrom (.content []) seen (line.render.toList ++ rest) =
      scanFrom (.content []) (line.piece.tokens.reverse ++ seen) rest := by
  rw [line.toList_render, List.append_assoc, List.append_assoc,
    scanFrom_blanks seen _ _ line.isXmlBlank_indent, scanFrom_piece seen line.piece _ plain,
    scanFrom_blanks _ _ rest isXmlBlank_lineBreak]

def Outline.Plain (outline : Outline) : Prop := ∀ line ∈ outline, line.piece.Plain

def Outline.tokens (outline : Outline) : List Token := outline.flatMap (·.piece.tokens)

theorem Outline.toList_render (outline : Outline) :
    outline.render.toList = outline.flatMap (·.render.toList) := by
  induction outline with
  | nil => rfl
  | cons line outline ih =>
    have form : Outline.render (line :: outline) = line.render ++ Outline.render outline := by
      simp [Outline.render]
    rw [form, String.toList_append, ih, List.flatMap_cons]

theorem scanFrom_lines (seen : List Token) (outline : Outline) (rest : List Char)
    (plain : outline.Plain) :
    scanFrom (.content []) seen (outline.render.toList ++ rest) =
      scanFrom (.content []) (outline.tokens.reverse ++ seen) rest := by
  rw [Outline.toList_render]
  induction outline generalizing seen with
  | nil => rfl
  | cons line outline ih =>
    rw [List.flatMap_cons, List.append_assoc,
      scanFrom_line seen line _ (plain line List.mem_cons_self),
      ih _ fun l hl => plain l (List.mem_cons_of_mem line hl)]
    simp [Outline.tokens]

theorem scanFrom_outline (outline : Outline) (seen : List Token) (plain : outline.Plain) :
    scanFrom (.content []) seen outline.render.toList =
      (seen.reverse ++ outline.tokens, none) := by
  have found := scanFrom_lines seen outline [] plain
  rw [List.append_nil] at found
  rw [found]
  simp [scanFrom, Place.finish, textToken]

@[simp] theorem Outline.tokens_append (first second : Outline) :
    Outline.tokens (first ++ second) = first.tokens ++ second.tokens := by
  simp [Outline.tokens]

@[simp] theorem Outline.tokens_nest (name : String) (values : Values) (inside : Outline) :
    (Outline.nest name values inside).tokens =
      .opening (tagOf name values) :: inside.tokens ++ [.closing name] := by
  simp [Outline.nest, Outline.tokens, Piece.tokens, List.flatMap_map]

/-! ## Names and depths -/

def Piece.name : Piece → String
  | opening name _ => name
  | empty name _ => name
  | closing name => name
  | text name _ => name

def Outline.names (outline : Outline) : List String := outline.map (·.piece.name)

@[simp] theorem Outline.names_append (first second : Outline) :
    Outline.names (first ++ second) = first.names ++ second.names := List.map_append

@[simp] theorem Outline.names_leaf (name : String) (values : Values) :
    (Outline.leaf name values).names = [name] := rfl

@[simp] theorem Outline.names_text (name content : String) :
    (Outline.text name content).names = [name] := rfl

@[simp] theorem Outline.names_nest (name : String) (values : Values) (inside : Outline) :
    (Outline.nest name values inside).names = name :: inside.names ++ [name] := by
  simp [Outline.nest, Outline.names, Piece.name]

theorem Outline.mem_names_flatMap {α : Type} {items : List α} {part : α → Outline} {name : String} :
    name ∈ Outline.names (items.flatMap part) ↔ ∃ item ∈ items, name ∈ (part item).names := by
  simp only [Outline.names, List.map_flatMap, List.mem_flatMap]

def Outline.indented (depth : Nat) (outline : Outline) : Outline :=
  outline.map fun line => ⟨line.depth + depth, line.piece⟩

@[simp] theorem Outline.indented_append (depth : Nat) (first second : Outline) :
    Outline.indented depth (first ++ second) = first.indented depth ++ second.indented depth :=
  List.map_append

theorem Outline.indented_nest (depth : Nat) (name : String) (values : Values) (inside : Outline) :
    (Outline.nest name values inside).indented depth =
      ⟨depth, .opening name values⟩ :: inside.indented (depth + 1) ++ [⟨depth, .closing name⟩] := by
  simp [Outline.nest, Outline.indented, Nat.add_comm depth, Nat.add_assoc]

end Bindery.Xml
