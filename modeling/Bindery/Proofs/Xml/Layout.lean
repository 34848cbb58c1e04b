import Bindery.Proofs.Xml.Escaping
import Bindery.Proofs.Xml.Event
import Bindery.Xml.Printer

/-! The layout of outlines. In the lines of a document, each stands as far to the right as elements
are open around it, and an end tag ends the element that was opened last. Outlines are laid out so,
and a printer that only counts what is open writes them the same. -/
namespace Bindery.Xml

/-! ## Lines -/

/-- Tags in whose values nothing looks like markup. -/
structure StartTag.Clean (t : StartTag) : Prop extends t.WellFormed where
  values : ∀ a ∈ t.attributes, Inert a.value

def endTag (name : List Char) : List Char := '<' :: '/' :: (name ++ ['>'])

def indentedBy (depth : Nat) (content : List Char) : List Char :=
  List.replicate (2 * depth) ' ' ++ content

/-- One line of markup leads from the elements that are open in front of it to those that are open
behind it, innermost first. A line holds one tag, or one element around a text. -/
inductive LineStep : List (List Char) → List Char → List (List Char) → Prop where
  | start {names : List (List Char)} {t : StartTag} : t.Clean →
      LineStep names (indentedBy names.length t.opening) (t.name :: names)
  | empty {names : List (List Char)} {t : StartTag} : t.Clean →
      LineStep names (indentedBy names.length t.empty) names
  | text {names : List (List Char)} {name content : List Char} :
      IsName name → content ≠ [] → Inert content →
      LineStep names
        (indentedBy names.length (StartTag.opening ⟨name, [], []⟩ ++ content ++ endTag name)) names
  | stop {names : List (List Char)} {name : List Char} :
      LineStep (name :: names) (indentedBy names.length (endTag name)) names

inductive Walk (outer : List (List Char)) :
    List (List Char) → List (List Char) → List (List Char) → Prop where
  | nil {names : List (List Char)} : Walk outer names [] names
  | cons {names next behind : List (List Char)} {line : List Char} {lines : List (List Char)} :
      LineStep (names ++ outer) line (next ++ outer) → Walk outer next lines behind →
      Walk outer names (line :: lines) behind

/-- The lines of a document: its root on one line, or between the first and the last one. -/
inductive Document : List (List Char) → Prop where
  | single {line : List Char} : LineStep [] line [] → Document [line]
  | nest {root first last : List Char} {lines : List (List Char)} :
      LineStep [] first [root] → Walk [root] [] lines [] → LineStep [root] last [] →
      Document (first :: lines ++ [last])

theorem Walk.append {outer names next behind : List (List Char)} {first second : List (List Char)}
    (before : Walk outer names first next) (after : Walk outer next second behind) :
    Walk outer names (first ++ second) behind := by
  induction before with
  | nil => exact after
  | cons step _ ih => exact .cons step (ih after)

theorem Walk.single {outer names next : List (List Char)} {line : List Char}
    (step : LineStep (names ++ outer) line (next ++ outer)) : Walk outer names [line] next :=
  .cons step .nil

/-! ## The lines of an outline -/

/-- A line without its break. -/
def Line.content (line : Line) : List Char := indentedBy line.depth line.piece.render.toList

def Outline.lines (outline : Outline) : List (List Char) := outline.map Line.content

theorem Outline.toList_render_lines (outline : Outline) :
    outline.render.toList = outline.lines.flatMap (· ++ ['\n']) := by
  rw [Outline.toList_render, Outline.lines, List.flatMap_map]
  congr 1
  funext line
  rw [line.toList_render]
  rfl

@[simp] theorem Outline.lines_append (first second : Outline) :
    Outline.lines (first ++ second) = first.lines ++ second.lines := List.map_append

theorem clean_startTag {values : Values} {name : String} (plain : PlainName name)
    (plainValues : values.Plain) : (values.startTag name).Clean := by
  refine ⟨wellFormed_startTag plain plainValues, ?_⟩
  intro a member
  obtain ⟨_, listed, rfl⟩ := List.mem_map.mp member
  obtain ⟨item, _, rfl⟩ := List.mem_map.mp listed
  exact inert_escaped item.2.toList

theorem toList_opening (name : String) (values : Values) :
    (Piece.opening name values).render.toList = (values.startTag name).opening := by
  simp [Piece.render, StartTag.opening, inside_startTag]

theorem toList_empty (name : String) (values : Values) :
    (Piece.empty name values).render.toList = (values.startTag name).empty := by
  simp [Piece.render, StartTag.empty, inside_startTag]

theorem toList_closing (name : String) :
    (Piece.closing name).render.toList = endTag name.toList := by
  simp [Piece.render, endTag]

theorem toList_text (name content : String) :
    (Piece.text name content).render.toList =
      StartTag.opening ⟨name.toList, [], []⟩ ++ content.toList.flatMap escapeChar ++
        endTag name.toList := by
  simp [Piece.render, StartTag.opening, StartTag.inside, StartTag.behindName, endTag]

section Steps

variable {names : List (List Char)} {depth : Nat} {name : String} {values : Values}

theorem lineStep_opening (deep : names.length = depth) (plain : PlainName name)
    (plainValues : values.Plain) :
    LineStep names (Line.content ⟨depth, .opening name values⟩) (name.toList :: names) := by
  rw [Line.content, ← deep, toList_opening]
  exact .start (clean_startTag plain plainValues)

theorem lineStep_empty (deep : names.length = depth) (plain : PlainName name)
    (plainValues : values.Plain) :
    LineStep names (Line.content ⟨depth, .empty name values⟩) names := by
  rw [Line.content, ← deep, toList_empty]
  exact .empty (clean_startTag plain plainValues)

theorem lineStep_closing (deep : names.length = depth) (name : String) :
    LineStep (name.toList :: names) (Line.content ⟨depth, .closing name⟩) names := by
  rw [Line.content, ← deep, toList_closing]
  exact .stop

theorem lineStep_text (deep : names.length = depth) (plain : PlainName name) {content : String}
    (solid : SolidText content) :
    LineStep names (Line.content ⟨depth, .text name content⟩) names := by
  have some : content.toList.flatMap escapeChar ≠ [] := by
    rw [← toList_escape, solid.escaped]
    exact solid.1
  rw [Line.content, ← deep, toList_text]
  exact .text plain.isName some (inert_escaped content.toList)

end Steps

/-- An inner outline leads back to the elements around it. By induction on how it is put together. -/
theorem walk_inner {outline : Outline} (inner : outline.Inner) (outer names : List (List Char)) :
    Walk outer names (outline.indented (names ++ outer).length).lines names := by
  induction inner generalizing names with
  | nil => exact .nil
  | append _ _ first second =>
    rw [Outline.indented_append, Outline.lines_append]
    exact (first names).append (second names)
  | leaf plain values => exact .single (lineStep_empty (Nat.zero_add _).symm plain values.plain)
  | text plain solid => exact .single (lineStep_text (Nat.zero_add _).symm plain solid)
  | @nest name values inside plain values' _ ih =>
    rw [Outline.indented_nest, Outline.lines_append]
    have within := ih (name.toList :: names)
    have start : LineStep (names ++ outer) _ ((name.toList :: names) ++ outer) :=
      lineStep_opening rfl plain values'.plain
    exact .cons start (within.append (.single (lineStep_closing rfl name)))

theorem document_leaf {name : String} {values : Values} (plain : PlainName name)
    (plainValues : values.Plain) : Document (Outline.leaf name values).lines :=
  .single (lineStep_empty rfl plain plainValues)

theorem document_nest {name : String} {values : Values} {inside : Outline} (plain : PlainName name)
    (plainValues : values.Plain) (inner : inside.Inner) :
    Document (Outline.nest name values inside).lines := by
  have within := walk_inner inner [name.toList] []
  have form : (Outline.nest name values inside).lines =
      Line.content ⟨0, .opening name values⟩ :: (inside.indented 1).lines ++
        [Line.content ⟨0, .closing name⟩] := by
    simp [Outline.nest, Outline.lines, Outline.indented]
  rw [form]
  exact .nest (lineStep_opening rfl plain plainValues) within (lineStep_closing rfl name)

/-! ## Line breaks -/

theorem not_mem_escaped {cs : List Char} (unbroken : '\n' ∉ cs) : '\n' ∉ cs.flatMap escapeChar := by
  intro member
  obtain ⟨c, listed, written⟩ := List.mem_flatMap.mp member
  rcases escapeChar_cases c with ⟨name, known, form⟩ | ⟨_, form⟩
  · rw [form, List.mem_cons] at written
    exact written.elim (by decide) (not_mem_reference known (by decide))
  · rw [form, List.mem_singleton] at written
    exact unbroken (written ▸ listed)

def Piece.texts : Piece → List String
  | opening _ values => values.present.map Prod.snd
  | empty _ values => values.present.map Prod.snd
  | closing _ => []
  | text _ content => [content]

def Outline.texts (outline : Outline) : List String := outline.flatMap (·.piece.texts)

@[simp] theorem Outline.texts_nil : Outline.texts [] = [] := rfl

@[simp] theorem Outline.texts_append (first second : Outline) :
    Outline.texts (first ++ second) = first.texts ++ second.texts := List.flatMap_append

@[simp] theorem Outline.texts_leaf (name : String) (values : Values) :
    (Outline.leaf name values).texts = values.present.map Prod.snd := List.append_nil _

@[simp] theorem Outline.texts_text (name content : String) :
    (Outline.text name content).texts = [content] := rfl

@[simp] theorem Outline.texts_nest (name : String) (values : Values) (inside : Outline) :
    (Outline.nest name values inside).texts = values.present.map Prod.snd ++ inside.texts := by
  simp [Outline.nest, Outline.texts, Piece.texts, List.flatMap_map]

theorem Outline.texts_flatMap {α : Type} (items : List α) (part : α → Outline) :
    Outline.texts (items.flatMap part) = items.flatMap fun item => (part item).texts :=
  List.flatMap_assoc

theorem Values.some_mem_of_mem_present {values : Values} {text : String}
    (member : text ∈ values.present.map Prod.snd) : some text ∈ values.map Prod.snd := by
  obtain ⟨_, present, rfl⟩ := List.mem_map.mp member
  obtain ⟨item, listed, chosen⟩ := List.mem_filterMap.mp present
  obtain ⟨value, known, rfl⟩ := Option.map_eq_some_iff.mp chosen
  exact List.mem_map.mpr ⟨item, listed, known⟩

theorem PlainName.unbroken {name : String} (plain : PlainName name) : '\n' ∉ name.toList :=
  plain.not_mem (by decide) (by decide)

theorem unbroken_values {values : Values} (plain : values.Plain)
    (unbroken : ∀ text ∈ values.present.map Prod.snd, '\n' ∉ text.toList) :
    '\n' ∉ values.render.toList := by
  rw [toList_render_values]
  intro member
  obtain ⟨a, listed, inside⟩ := List.mem_flatMap.mp member
  obtain ⟨item, present, rfl⟩ := List.mem_map.mp listed
  have name := (plain.names item.1 (mem_names_of_mem_present present)).unbroken
  have value := not_mem_escaped (unbroken item.2 (List.mem_map_of_mem present))
  simp [Attribute.written, Attribute.ofValue, name, value] at inside

theorem Piece.unbroken {piece : Piece} (plain : piece.Plain)
    (unbroken : ∀ text ∈ piece.texts, '\n' ∉ text.toList) : '\n' ∉ piece.render.toList := by
  cases piece with
  | opening name values =>
    simp [Piece.render, plain.1.unbroken, unbroken_values plain.2 unbroken]
  | empty name values =>
    simp [Piece.render, plain.1.unbroken, unbroken_values plain.2 unbroken]
  | closing name => simp [Piece.render, PlainName.unbroken plain]
  | text name content =>
    have inside := not_mem_escaped (unbroken content List.mem_cons_self)
    simp [Piece.render, plain.1.unbroken, inside]

/-- The lines of an outline hold no other line breaks than its texts. -/
theorem Outline.Plain.unbroken {outline : Outline} (plain : outline.Plain)
    (unbroken : ∀ text ∈ outline.texts, '\n' ∉ text.toList) : ∀ line ∈ outline.lines, '\n' ∉ line := by
  intro _ member
  obtain ⟨line, listed, rfl⟩ := List.mem_map.mp member
  have piece := Piece.unbroken (plain line listed) fun text shown =>
    unbroken text (List.mem_flatMap.mpr ⟨line, listed, shown⟩)
  simp [Line.content, indentedBy, piece]

/-! ## Printing -/

def Outline.pieces (outline : Outline) : List Piece := outline.map Line.piece

@[simp] theorem Outline.pieces_append (first second : Outline) :
    Outline.pieces (first ++ second) = first.pieces ++ second.pieces := List.map_append

@[simp] theorem Outline.pieces_nest (name : String) (values : Values) (inside : Outline) :
    (Outline.nest name values inside).pieces =
      .opening name values :: inside.pieces ++ [.closing name] := by
  simp [Outline.nest, Outline.pieces]

@[simp] theorem Outline.indented_zero (outline : Outline) : outline.indented 0 = outline :=
  List.map_id _

theorem Outline.pieces_flatMap {α : Type} (items : List α) (part : α → Outline) :
    Outline.pieces (items.flatMap part) = items.flatMap fun item => (part item).pieces :=
  List.map_flatMap

namespace Printer

def Steady : Printer → List Piece → Prop
  | _, [] => True
  | p, piece :: rest => (∀ name, piece = .closing name → 0 < p.depth) ∧ Steady (p.put piece) rest

theorem steady_append (p : Printer) (first second : List Piece) :
    p.Steady (first ++ second) ↔ p.Steady first ∧ (first.foldl put p).Steady second := by
  induction first generalizing p with
  | nil => simp [Steady]
  | cons piece first ih => simp [Steady, ih, and_assoc]

theorem Steady.of_ne {p : Printer} {piece : Piece} {rest : List Piece}
    (other : ∀ name, piece ≠ .closing name) (later : (p.put piece).Steady rest) :
    p.Steady (piece :: rest) :=
  ⟨fun name same => absurd same (other name), later⟩

theorem Steady.depth_pos {p : Printer} {before after : List Piece} {name : String}
    (steady : p.Steady (before ++ .closing name :: after)) : 0 < (before.foldl put p).depth :=
  ((p.steady_append before _).mp steady).2.1 name rfl

/-- The printer once an outline is written where it stands. -/
def behind (p : Printer) (outline : Outline) : Printer :=
  { p with text := p.text ++ (outline.indented p.depth).render }

theorem behind_append (p : Printer) (first second : Outline) :
    p.behind (first ++ second) = (p.behind first).behind second := by
  simp [behind, Outline.render, String.append_assoc]

theorem line_eq (p : Printer) (piece : Piece) :
    p.line piece.render = { p with text := p.text ++ Line.render ⟨p.depth, piece⟩ } := by
  simp [line, Line.render, String.append_assoc]

theorem render_singleton (line : Line) : Outline.render [line] = line.render := by
  simp [Outline.render]

theorem line_single (p : Printer) (piece : Piece) : p.line piece.render = p.behind [⟨0, piece⟩] := by
  rw [line_eq, behind]
  simp [Outline.indented, render_singleton]

theorem behind_nest (p : Printer) (name : String) (values : Values) (inside : Outline) :
    ((p.put (.opening name values)).behind inside).put (.closing name) =
      p.behind (Outline.nest name values inside) := by
  simp only [put, line_eq, behind, Outline.indented_nest, Nat.add_sub_cancel]
  simp [Outline.render, String.append_assoc]

end Printer

def Printed (outline : Outline) : Prop :=
  ∀ p : Printer, outline.pieces.foldl Printer.put p = p.behind outline ∧ p.Steady outline.pieces

theorem printed_leaf (name : String) (values : Values) : Printed (Outline.leaf name values) :=
  fun p => ⟨p.line_single _, .of_ne (by simp) trivial⟩

theorem Printed.nest {inside : Outline} (printed : Printed inside) (name : String)
    (values : Values) : Printed (Outline.nest name values inside) := by
  intro p
  obtain ⟨written, steady⟩ := printed (p.put (.opening name values))
  rw [Outline.pieces_nest, List.cons_append, List.foldl_cons, List.foldl_append, written,
    List.foldl_cons, List.foldl_nil, p.behind_nest]
  refine ⟨rfl, .of_ne (by simp) ?_⟩
  rw [Printer.steady_append, written]
  exact ⟨steady, fun _ _ => Nat.succ_pos _, trivial⟩

theorem Outline.Inner.printed {outline : Outline} (inner : outline.Inner) : Printed outline := by
  induction inner with
  | nil =>
    exact fun p => ⟨by simp [pieces, Printer.behind, indented, render], trivial⟩
  | @append first second _ _ here later =>
    intro p
    rw [pieces_append, List.foldl_append, Printer.steady_append, (here p).1, p.behind_append]
    exact ⟨(later _).1, (here p).2, (later _).2⟩
  | leaf _ _ => exact printed_leaf _ _
  | text _ _ => exact fun p => ⟨p.line_single _, .of_ne (by simp) trivial⟩
  | nest _ _ _ ih => exact ih.nest _ _

end Bindery.Xml
