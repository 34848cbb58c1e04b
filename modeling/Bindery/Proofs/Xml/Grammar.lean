import Bindery.Proofs.Xml.Cursor

/-! Well-formed elements as texts, in the grammar of the markup standard with the wider classes of
its tags. Wherever character data may stand, a reading passes over such an element: it takes in one
node and is inside the same elements behind it as in front of it. -/
namespace Bindery.Xml

/-! ## The grammar -/

/-- What may stand between the tags of an element. -/
inductive Content : List Char → Prop where
  | nil : Content []
  | append {first second : List Char} : Content first → Content second → Content (first ++ second)
  | char {c : Char} : c ≠ '<' → c ≠ '&' → Content [c]
  | reference {name : List Char} :
      (∀ c ∈ name, c ≠ ';' ∧ c ≠ '&' ∧ c ≠ '<') → Content ('&' :: (name ++ [';']))
  | comment {inside : List Char} : ¬ "-->".toList <:+: inside →
      Content ("<!--".toList ++ (inside ++ "-->".toList))
  | instruction {inside : List Char} : inside.head? ≠ some '>' → ¬ "?>".toList <:+: inside →
      Content ("<?".toList ++ (inside ++ "?>".toList))
  | cdata {inside : List Char} : ¬ "]]>".toList <:+: inside →
      Content ("<![CDATA[".toList ++ (inside ++ "]]>".toList))
  | empty {t : StartTag} : t.NamespaceWellFormed → Content t.empty
  | element {t : StartTag} {inside gap : List Char} : t.NamespaceWellFormed → Content inside →
      AllBlank gap → Content (t.opening ++ (inside ++ t.closing gap))

/-- Well-formed elements with the start tag `t`. -/
inductive StartTag.Element (t : StartTag) : List Char → Prop where
  | empty : t.NamespaceWellFormed → Element t t.empty
  | filled {inside gap : List Char} : t.NamespaceWellFormed → Content inside → AllBlank gap →
      Element t (t.opening ++ (inside ++ t.closing gap))

/-! ## Inside a tag -/

def StaysInTag (cs : List Char) : Prop := ∀ inside nest,
  Cursor.Reads ⟨.tag inside none, nest⟩ cs [] ⟨.tag (cs.reverse ++ inside) none, nest⟩

theorem staysInTag_append {first second : List Char} (before : StaysInTag first)
    (behind : StaysInTag second) : StaysInTag (first ++ second) := by
  intro inside nest
  have reads := (before inside nest).append (behind (first.reverse ++ inside) nest)
  simpa using reads

theorem staysInTag_flatMap {α : Type} {items : List α} {write : α → List Char}
    (each : ∀ item ∈ items, StaysInTag (write item)) : StaysInTag (items.flatMap write) := by
  induction items with
  | nil => exact fun inside nest => .nil _
  | cons item items ih =>
    rw [List.flatMap_cons]
    exact staysInTag_append (each item List.mem_cons_self)
      (ih fun i member => each i (List.mem_cons_of_mem item member))

theorem staysInTag_of_forall {cs : List Char} (outside : ∀ c ∈ cs, c ≠ '>' ∧ isQuote c = false) :
    StaysInTag cs := by
  induction cs with
  | nil => exact fun inside nest => .nil _
  | cons c cs ih =>
    intro inside nest
    obtain ⟨noEnd, noQuote⟩ := outside c List.mem_cons_self
    have step : Cursor.step ⟨.tag inside none, nest⟩ c =
        .ok (⟨.tag (c :: inside) none, nest⟩, []) := by
      simp [Cursor.step, Place.step, quoteAfter, noEnd, noQuote]
    have reads := (ih fun d member => outside d (List.mem_cons_of_mem c member)) (c :: inside) nest
    simpa using reads.skip step

theorem staysInTag_blanks {cs : List Char} (blank : AllBlank cs) : StaysInTag cs := by
  apply staysInTag_of_forall
  intro c member
  have here := blank c member
  constructor
  · rintro rfl
    exact absurd here (by decide)
  · apply Bool.eq_false_iff.mpr
    intro quotes
    have mark : c = '"' ∨ c = '\'' := by simpa [isQuote] using quotes
    rcases mark with rfl | rfl <;> exact absurd here (by decide)

theorem staysInTag_name {name : List Char} (named : IsName name) : StaysInTag name := by
  apply staysInTag_of_forall
  intro c member
  exact ⟨isNameChar_ne (named.2 c member) (by decide), isNameChar_not_quote (named.2 c member)⟩

theorem reads_quoted {quote : Char} {value : List Char} (within : quote ∉ value)
    (inside : List Char) (nest : Nest) :
    Cursor.Reads ⟨.tag inside (some quote), nest⟩ value []
      ⟨.tag (value.reverse ++ inside) (some quote), nest⟩ := by
  induction value generalizing inside with
  | nil => exact .nil _
  | cons c value ih =>
    have other : c ≠ quote := fun same => within (same ▸ List.mem_cons_self)
    have step : Cursor.step ⟨.tag inside (some quote), nest⟩ c =
        .ok (⟨.tag (c :: inside) (some quote), nest⟩, []) := by
      simp [Cursor.step, Place.step, quoteAfter, other]
    have reads := ih (fun member => within (List.mem_cons_of_mem c member)) (c :: inside)
    simpa using reads.skip step

theorem staysInTag_value {quote : Char} {value : List Char} (mark : quote = '"' ∨ quote = '\'')
    (within : quote ∉ value) : StaysInTag (quote :: (value ++ [quote])) := by
  intro inside nest
  have quotes : isQuote quote = true ∧ quote ≠ '>' := by rcases mark with rfl | rfl <;> decide
  have opens : Cursor.step ⟨.tag inside none, nest⟩ quote =
      .ok (⟨.tag (quote :: inside) (some quote), nest⟩, []) := by
    simp [Cursor.step, Place.step, quoteAfter, quotes]
  have closes (held : List Char) : Cursor.step ⟨.tag held (some quote), nest⟩ quote =
      .ok (⟨.tag (quote :: held) none, nest⟩, []) := by
    simp [Cursor.step, Place.step, quoteAfter]
  have reads := (reads_quoted within (quote :: inside) nest).append
    (Cursor.Reads.skip (closes _) (.nil _))
  simpa using reads.skip opens

theorem TagAttribute.WellFormed.staysInTag {a : TagAttribute} (formed : a.WellFormed) :
    StaysInTag a.written := by
  have equals : StaysInTag ['='] := staysInTag_of_forall (by simp [isQuote])
  exact staysInTag_append (staysInTag_blanks formed.gap) <|
    staysInTag_append (staysInTag_name formed.name) <|
    staysInTag_append (staysInTag_blanks formed.left) <|
    staysInTag_append equals <|
    staysInTag_append (staysInTag_blanks formed.right) <|
    staysInTag_value formed.quote formed.value

theorem StartTag.WellFormed.staysInTag {t : StartTag} (formed : t.WellFormed) :
    StaysInTag t.behindName :=
  staysInTag_append (staysInTag_flatMap fun a member => (formed.attributes a member).staysInTag)
    (staysInTag_blanks formed.gap)

/-! ## Reading a tag -/

theorem reads_tag {c : Char} {cs : List Char} {nest next : Nest} {found : List Event}
    (noMark : c ≠ '?' ∧ c ≠ '!' ∧ c ≠ '>') (noQuote : isQuote c = false) (stays : StaysInTag cs)
    (step : nest.step (Token.ofInside (c :: cs)) = .ok (next, found)) (data : List Char) :
    Cursor.Reads ⟨.content data, nest⟩ ('<' :: (c :: cs ++ ['>']))
      (Forest.events (heldText data) ++ found) ⟨.content [], next⟩ := by
  have first : Cursor.step ⟨.markup, nest⟩ c = .ok (⟨.tag [c] none, nest⟩, []) := by
    simp [Cursor.step, Place.step, quoteAfter, noMark, noQuote]
  have last : Cursor.step ⟨.tag (cs.reverse ++ [c]) none, nest⟩ '>' =
      .ok (⟨.content [], next⟩, found) := by
    simp [Cursor.step, Place.step, step]
  have reads := ((stays [c] nest).append (Cursor.Reads.cons last (.nil _))).skip first
  rw [List.nil_append, List.append_nil] at reads
  exact reads.cons (step_markup data nest)

section Elements

variable {t : StartTag}

/-- Both kinds of start tag, whatever stands between the attributes and the closing bracket. -/
theorem StartTag.WellFormed.reads (formed : t.WellFormed) {slash : List Char} {nest next : Nest}
    {found : List Event} (plain : ∀ c ∈ slash, c ≠ '>' ∧ isQuote c = false)
    (step : nest.step (Token.ofInside (t.inside ++ slash)) = .ok (next, found))
    (data : List Char) :
    Cursor.Reads ⟨.content data, nest⟩ ('<' :: (t.inside ++ slash ++ ['>']))
      (Forest.events (heldText data) ++ found) ⟨.content [], next⟩ := by
  obtain ⟨c, cs, letters, letter⟩ := formed.name.exists_cons
  have rest : StaysInTag cs := staysInTag_of_forall fun d member =>
    have name := formed.name.2 d (letters ▸ List.mem_cons_of_mem c member)
    ⟨isNameChar_ne name (by decide), isNameChar_not_quote name⟩
  have stays : StaysInTag (cs ++ t.behindName ++ slash) :=
    staysInTag_append (staysInTag_append rest formed.staysInTag) (staysInTag_of_forall plain)
  have form : t.inside ++ slash = c :: (cs ++ t.behindName ++ slash) := by
    simp [inside, letters]
  rw [form] at step ⊢
  exact reads_tag ⟨isNameChar_ne letter (by decide), isNameChar_ne letter (by decide),
    isNameChar_ne letter (by decide)⟩ (isNameChar_not_quote letter) stays step data

theorem StartTag.NamespaceWellFormed.reads_opening (formed : t.NamespaceWellFormed) (nest : Nest)
    (data : List Char) :
    Cursor.Reads ⟨.content data, nest⟩ t.opening
      (Forest.events (heldText data) ++ [(t.scope nest.scope).start t.tag])
      ⟨.content [], (spell t.name, t.scope nest.scope) :: nest⟩ := by
  have step : nest.step (Token.ofInside (t.inside ++ [])) =
      .ok ((spell t.name, t.scope nest.scope) :: nest, [(t.scope nest.scope).start t.tag]) := by
    rw [List.append_nil, formed.ofInside_opening]
    exact nest_step_opening rfl (formed.enter nest.scope)
  have reads := formed.reads (by simp) step data
  rwa [List.append_nil] at reads

theorem StartTag.NamespaceWellFormed.reads_empty (formed : t.NamespaceWellFormed) (nest : Nest)
    (data : List Char) :
    Cursor.Reads ⟨.content data, nest⟩ t.empty
      (Forest.events (heldText data) ++ [(t.scope nest.scope).start t.tag, .stop])
      ⟨.content [], nest⟩ := by
  have step : nest.step (Token.ofInside (t.inside ++ ['/'])) =
      .ok (nest, [(t.scope nest.scope).start t.tag, .stop]) := by
    rw [formed.ofInside_empty]
    exact nest_step_empty rfl (formed.enter nest.scope)
  have reads := formed.reads (by simp [isQuote]) step data
  rwa [List.append_assoc] at reads

theorem IsName.reads_closing {name gap : List Char} (named : IsName name) (blank : AllBlank gap)
    (nest : Nest) (scope : Scope) (data : List Char) :
    Cursor.Reads ⟨.content data, (spell name, scope) :: nest⟩
      ('<' :: '/' :: (name ++ (gap ++ ['>'])))
      (Forest.events (heldText data) ++ [.stop]) ⟨.content [], nest⟩ := by
  have step : Nest.step ((spell name, scope) :: nest) (Token.ofInside ('/' :: (name ++ gap))) =
      .ok (nest, [.stop]) := by
    rw [named.ofInside_closing blank]
    exact nest_step_closing nest (spell name) scope
  have stays := staysInTag_append (staysInTag_name named) (staysInTag_blanks blank)
  have reads := reads_tag (by decide) (by decide) stays step data
  simpa using reads

/-- A text passes: behind it a reading is in character data inside the same elements as in front of
it, and it has taken in whole nodes. -/
def Passes (cs : List Char) : Prop := ∀ data nest, ∃ data' nodes,
  Cursor.Reads ⟨.content data, nest⟩ cs (Forest.events nodes) ⟨.content data', nest⟩

def StartTag.resolved (t : StartTag) (outer : Scope) : Option String × String :=
  (t.scope outer).resolve t.tag.name

def StartTag.node (t : StartTag) (outer : Scope) (nodes : Forest) : Node :=
  .element (t.resolved outer).1 (t.resolved outer).2 t.tag nodes

theorem StartTag.NamespaceWellFormed.reads_empty_node (formed : t.NamespaceWellFormed) (nest : Nest)
    (data : List Char) :
    Cursor.Reads ⟨.content data, nest⟩ t.empty
      (Forest.events (heldText data ++ [t.node nest.scope []])) ⟨.content [], nest⟩ := by
  have reads := formed.reads_empty nest data
  rw [Forest.events_append]
  exact reads

theorem StartTag.NamespaceWellFormed.reads_node {inside gap : List Char}
    (formed : t.NamespaceWellFormed) (passes : Passes inside) (blank : AllBlank gap) (nest : Nest)
    (data : List Char) :
    ∃ nodes, Cursor.Reads ⟨.content data, nest⟩ (t.opening ++ (inside ++ t.closing gap))
      (Forest.events (heldText data ++ [t.node nest.scope nodes])) ⟨.content [], nest⟩ := by
  obtain ⟨data', nodes, within⟩ := passes [] ((spell t.name, t.scope nest.scope) :: nest)
  refine ⟨nodes ++ heldText data', ?_⟩
  have reads := (formed.reads_opening nest data).append
    (within.append (formed.name.reads_closing blank nest _ data'))
  rw [Forest.events_append]
  simpa [Forest.events, Node.events, Scope.start, node, resolved, closing] using reads

end Elements

/-! ## Other markup -/

theorem passes_append {first second : List Char} (before : Passes first) (behind : Passes second) :
    Passes (first ++ second) := by
  intro data nest
  obtain ⟨between, nodes, reads⟩ := before data nest
  obtain ⟨last, later, rest⟩ := behind between nest
  refine ⟨last, nodes ++ later, ?_⟩
  rw [Forest.events_append]
  exact reads.append rest

def Silent (cs : List Char) : Prop := ∀ data nest,
  Cursor.Reads ⟨.content data, nest⟩ cs (Forest.events (heldText data)) ⟨.content [], nest⟩

theorem Silent.passes {cs : List Char} (silent : Silent cs) : Passes cs :=
  fun data nest => ⟨[], heldText data, silent data nest⟩

theorem reads_blanks {cs : List Char} (blank : AllBlank cs) (nest : Nest) :
    Cursor.Reads ⟨.content [], nest⟩ cs [] ⟨.content [], nest⟩ := by
  induction cs with
  | nil => exact .nil _
  | cons c cs ih =>
    have here := blank c List.mem_cons_self
    have apart : c ≠ '<' ∧ c ≠ '&' := by
      constructor
      · rintro rfl
        exact absurd here (by decide)
      · rintro rfl
        exact absurd here (by decide)
    have step : Cursor.step ⟨.content [], nest⟩ c = .ok (⟨.content [], nest⟩, []) := by
      simp [Cursor.step, Place.step, apart, here]
    exact (ih fun d member => blank d (List.mem_cons_of_mem c member)).skip step

theorem SolidText.trimStart_eq {content : String} (solid : SolidText content) :
    trimStart isXmlBlank content.toList = content.toList := by
  obtain ⟨some, each⟩ := solid
  cases letters : content.toList with
  | nil => exact absurd letters some
  | cons c cs =>
    have first := (each c (letters ▸ List.mem_cons_self)).2
    simp [trimStart, first]

theorem SolidText.reads {content : String} (solid : SolidText content) (nest : Nest) :
    Cursor.Reads ⟨.content [], nest⟩ content.toList []
      ⟨.content content.toList.reverse, nest⟩ := by
  have plain : IsRun content.toList := by
    intro c member
    have kept := (solid.2 c member).1
    constructor
    · rintro rfl
      exact absurd kept (by decide)
    · rintro rfl
      exact absurd kept (by decide)
  have run := reads_run [] plain nest
  rwa [List.nil_append, Place.behind, Place.behind, solid.trimStart_eq] at run

theorem SolidText.held {content : String} (solid : SolidText content) :
    heldText content.toList.reverse = [.text content.toList] := by
  have token := solid.token
  simp only [textToken] at token
  unfold heldText
  cases kept : content.toList.reverse.dropWhile isXmlBlank with
  | nil =>
    rw [kept] at token
    cases token
  | cons c cs =>
    rw [kept] at token
    have same : (c :: cs).reverse = content.toList := Token.text.inj (Option.some.inj token)
    exact congrArg (fun content => [Node.text content]) same

theorem silent_markup {cs : List Char}
    (reads : ∀ nest, Cursor.Reads ⟨.markup, nest⟩ cs [] ⟨.content [], nest⟩) :
    Silent ('<' :: cs) := by
  intro data nest
  have whole := (reads nest).cons (step_markup data nest)
  rwa [List.append_nil] at whole

theorem silent_reference {name : List Char} (within : ∀ c ∈ name, c ≠ ';' ∧ c ≠ '&' ∧ c ≠ '<') :
    Silent ('&' :: (name ++ [';'])) := by
  intro data nest
  have reads : Cursor.Reads ⟨.reference, nest⟩ (name ++ [';']) [] ⟨.content [], nest⟩ := by
    induction name with
    | nil => rfl
    | cons c name ih =>
      have here := within c List.mem_cons_self
      have step : Cursor.step ⟨.reference, nest⟩ c = .ok (⟨.reference, nest⟩, []) := by
        simp [Cursor.step, Place.step, here]
      exact (ih fun d member => within d (List.mem_cons_of_mem c member)).skip step
  have whole := reads.cons (step_reference data nest)
  rwa [List.append_nil] at whole

section Sections

variable {P : Nat → Place} {mark : Char} (need : Nat) (apart : mark ≠ '>')
  (step : ∀ k c, (P k).step c = if c = '>' ∧ need ≤ k then .ok (.content [], none)
    else .ok (P (if c = mark then k + 1 else 0), none))
include apart step

/-- Places that count a mark end at the first closing bracket behind enough of them. -/
theorem reads_marks (nest : Nest) (more k : Nat) (enough : need ≤ k + more) :
    Cursor.Reads ⟨P k, nest⟩ (List.replicate more mark ++ ['>']) [] ⟨.content [], nest⟩ := by
  induction more generalizing k with
  | zero =>
    have ends : Cursor.step ⟨P k, nest⟩ '>' = .ok (⟨.content [], nest⟩, []) := by
      have enough : need ≤ k := enough
      simp [Cursor.step, step, enough]
    exact Cursor.Reads.skip ends (.nil _)
  | succ more ih =>
    have counts : Cursor.step ⟨P k, nest⟩ mark = .ok (⟨P (k + 1), nest⟩, []) := by
      simp [Cursor.step, step, apart]
    exact (ih (k + 1) (by omega)).skip counts

/-- A section ends where its end mark first stands, with `k` of the marks in front already. -/
theorem reads_section (nest : Nest) (inside : List Char) (k : Nat)
    (within : ¬ (List.replicate need mark ++ ['>']) <:+: (List.replicate k mark ++ inside)) :
    Cursor.Reads ⟨P k, nest⟩ (inside ++ (List.replicate need mark ++ ['>'])) []
      ⟨.content [], nest⟩ := by
  induction inside generalizing k with
  | nil => exact reads_marks need apart step nest need k (by omega)
  | cons c inside ih =>
    by_cases counted : c = mark
    · subst counted
      have counts : Cursor.step ⟨P k, nest⟩ c = .ok (⟨P (k + 1), nest⟩, []) := by
        simp [Cursor.step, step, apart]
      refine (ih (k + 1) ?_).skip counts
      rwa [List.replicate_succ', List.append_assoc]
    · have open' : ¬ (c = '>' ∧ need ≤ k) := by
        rintro ⟨rfl, enough⟩
        apply within
        refine ⟨List.replicate (k - need) mark, inside, ?_⟩
        rw [← List.append_assoc, List.replicate_append_replicate, Nat.sub_add_cancel enough,
          List.append_assoc]
        rfl
      have goes : Cursor.step ⟨P k, nest⟩ c = .ok (⟨P 0, nest⟩, []) := by
        simp [Cursor.step, step, open', counted]
      refine (ih 0 fun infix' => within ?_).skip goes
      exact infix'.trans ⟨List.replicate k mark ++ [c], [], by simp⟩

end Sections

theorem silent_comment {inside : List Char} (within : ¬ "-->".toList <:+: inside) :
    Silent ("<!--".toList ++ (inside ++ "-->".toList)) := by
  apply silent_markup
  intro nest
  have begins : Cursor.Reads ⟨.markup, nest⟩ "!--".toList [] ⟨.comment 0, nest⟩ := rfl
  have dash : '-' ≠ '>' := by decide
  exact begins.append (reads_section 2 dash (fun _ _ => rfl) nest inside 0 within)

theorem silent_cdata {inside : List Char} (within : ¬ "]]>".toList <:+: inside) :
    Silent ("<![CDATA[".toList ++ (inside ++ "]]>".toList)) := by
  apply silent_markup
  intro nest
  have begins : Cursor.Reads ⟨.markup, nest⟩ "![CDATA[".toList [] ⟨.cdata 0, nest⟩ := rfl
  have bracket : ']' ≠ '>' := by decide
  exact begins.append (reads_section 2 bracket (fun _ _ => rfl) nest inside 0 within)

theorem silent_instruction {inside : List Char} (target : inside.head? ≠ some '>')
    (within : ¬ "?>".toList <:+: inside) :
    Silent ("<?".toList ++ (inside ++ "?>".toList)) := by
  apply silent_markup
  intro nest
  have begins : Cursor.Reads ⟨.markup, nest⟩ "?".toList [] ⟨.instructionStart, nest⟩ := rfl
  have ends : Cursor.Reads ⟨.instruction false, nest⟩ (inside ++ "?>".toList) []
      ⟨.content [], nest⟩ := by
    have question : '?' ≠ '>' := by decide
    have counts (k : Nat) (c : Char) : Place.step (.instruction (decide (1 ≤ k))) c =
        if c = '>' ∧ 1 ≤ k then .ok (.content [], none)
        else .ok (.instruction (decide (1 ≤ if c = '?' then k + 1 else 0)), none) := by
      have after : (c == '?') = decide (1 ≤ if c = '?' then k + 1 else 0) := by
        by_cases mark : c = '?' <;> simp [mark]
      simp [Place.step, after]
    exact reads_section 1 question counts nest inside 0 within
  obtain ⟨c, cs, text, first⟩ : ∃ c cs, inside ++ "?>".toList = c :: cs ∧ c ≠ '>' := by
    cases inside with
    | nil => exact ⟨'?', ['>'], rfl, by decide⟩
    | cons c inside => exact ⟨c, inside ++ "?>".toList, rfl, fun same => target (by rw [same]; rfl)⟩
  rw [text] at ends ⊢
  have same : Cursor.step ⟨.instructionStart, nest⟩ c =
      Cursor.step ⟨.instruction false, nest⟩ c := by
    simp [Cursor.step, Place.step, first]
  obtain ⟨next, found, later, step, rest, made⟩ := ends.exists_of_cons
  rw [made]
  exact begins.append (rest.cons (same.trans step))

/-- Comments and processing instructions. -/
inductive Remark : List Char → Prop where
  | comment {inside : List Char} : ¬ "-->".toList <:+: inside →
      Remark ("<!--".toList ++ (inside ++ "-->".toList))
  | instruction {inside : List Char} : inside.head? ≠ some '>' → ¬ "?>".toList <:+: inside →
      Remark ("<?".toList ++ (inside ++ "?>".toList))

theorem Remark.silent {cs : List Char} (remark : Remark cs) : Silent cs := by
  cases remark with
  | comment within => exact silent_comment within
  | instruction target within => exact silent_instruction target within

theorem passes_char {c : Char} (markup : c ≠ '<') (reference : c ≠ '&') : Passes [c] := by
  intro data nest
  obtain ⟨data', step⟩ := step_content data nest markup reference
  exact ⟨data', [], Cursor.Reads.skip step (.nil _)⟩

theorem Content.passes {cs : List Char} (content : Content cs) : Passes cs := by
  induction content with
  | nil => exact fun data nest => ⟨data, [], .nil _⟩
  | append _ _ before behind => exact passes_append before behind
  | char markup reference => exact passes_char markup reference
  | reference within => exact (silent_reference within).passes
  | comment within => exact (silent_comment within).passes
  | instruction target within => exact (silent_instruction target within).passes
  | cdata within => exact (silent_cdata within).passes
  | empty formed => exact fun data nest => ⟨[], _, formed.reads_empty_node nest data⟩
  | element formed _ blank passes =>
    intro data nest
    obtain ⟨nodes, reads⟩ := formed.reads_node passes blank nest data
    exact ⟨[], _, reads⟩

theorem StartTag.Element.reads {t : StartTag} {text : List Char} (element : t.Element text)
    (nest : Nest) (data : List Char) :
    ∃ nodes, Cursor.Reads ⟨.content data, nest⟩ text
      (Forest.events (heldText data ++ [t.node nest.scope nodes])) ⟨.content [], nest⟩ := by
  cases element with
  | empty formed => exact ⟨[], formed.reads_empty_node nest data⟩
  | filled formed content blank => exact formed.reads_node content.passes blank nest data

/-! ## Places in a document -/

theorem endsIn_nil : EndsIn [] [] := ⟨[], [], rfl⟩

theorem EndsIn.opening {before : List Char} {nest : Nest} {t : StartTag} (ends : EndsIn before nest)
    (formed : t.NamespaceWellFormed) :
    EndsIn (before ++ t.opening) ((spell t.name, t.scope nest.scope) :: nest) :=
  endsIn_append ends (fun _ => rfl) fun data => ⟨_, [], formed.reads_opening nest data⟩

theorem EndsIn.opening_at {before : List Char} {nest : Nest} {t : StartTag}
    (ends : EndsIn before nest) (formed : t.NamespaceWellFormed) :
    EndsAt (before ++ t.opening) ((spell t.name, t.scope nest.scope) :: nest) := by
  obtain ⟨found, data, front⟩ := ends
  refine ⟨found ++ (Forest.events (heldText data) ++ [(t.scope nest.scope).start t.tag]), ?_⟩
  rw [unmarked_append fun _ => rfl]
  exact front.append (formed.reads_opening nest data)

theorem EndsIn.content {before cs : List Char} {nest : Nest} (ends : EndsIn before nest)
    (begins : before = [] → unmarked cs = cs) (content : Content cs) :
    EndsIn (before ++ cs) nest := by
  refine endsIn_append ends begins fun data => ?_
  obtain ⟨data', nodes, reads⟩ := content.passes data nest
  exact ⟨_, data', reads⟩

end Bindery.Xml
