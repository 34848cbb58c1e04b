import Bindery.Proofs.Xml.Cursor
import Bindery.Proofs.Xml.RenamedTag

/-! Texts under other names. What a tag holds is renamed when the tag ends; the rest of a text stays
as it is. A scan of the renamed text finds the renamed tokens, and these make the renamed events. -/
namespace Bindery.Xml

/-! ## What tags hold -/

def quoteWithin (quote : Option Char) (c : Char) : Option (Option Char) :=
  if c = '>' ∧ quote = none then none else some (quoteAfter quote c)

structure IsTagPart (inside : List Char) (quote : Option Char) : Prop where
  filled : inside ≠ []
  begins : inside.head? ≠ some '?' ∧ inside.head? ≠ some '!'
  quotes : inside.foldlM quoteWithin none = some quote

section Insides

variable {inside first second : List Char} {quote next : Option Char} {c : Char}

theorem isQuote_of_quoteWithin (mark : ∀ d ∈ quote, isQuote d = true)
    (step : quoteWithin quote c = some next) : ∀ d ∈ next, isQuote d = true := by
  simp only [quoteWithin] at step
  split at step
  · cases step
  · cases step
    cases quote with
    | none =>
      simp only [quoteAfter]
      split
      · rintro d ⟨⟩
        assumption
      · rintro d ⟨⟩
    | some q =>
      simp only [quoteAfter]
      split
      · rintro d ⟨⟩
      · exact mark

theorem isQuote_of_foldlM (mark : ∀ d ∈ quote, isQuote d = true)
    (run : inside.foldlM quoteWithin quote = some next) : ∀ d ∈ next, isQuote d = true := by
  induction inside generalizing quote with
  | nil =>
    cases run
    exact mark
  | cons c inside ih =>
    rw [List.foldlM_cons] at run
    obtain ⟨between, step, run⟩ := Option.bind_eq_some_iff.mp run
    exact ih (isQuote_of_quoteWithin mark step) run

theorem foldlM_name {name : List Char} (named : IsName name)
    (mark : ∀ d ∈ quote, isQuote d = true) : name.foldlM quoteWithin quote = some quote := by
  have each : ∀ c ∈ name, quoteWithin quote c = some quote := by
    intro c member
    have letter := named.2 c member
    have noQuote := isNameChar_not_quote letter
    have noEnd : c ≠ '>' := isNameChar_ne letter (by decide)
    cases quote with
    | none => simp [quoteWithin, quoteAfter, noEnd, noQuote]
    | some q =>
      have apart : c ≠ q := by
        rintro rfl
        exact Bool.false_ne_true (noQuote.symm.trans (mark c rfl))
      simp [quoteWithin, quoteAfter, apart]
  clear named
  induction name with
  | nil => rfl
  | cons c name ih =>
    rw [List.foldlM_cons, each c List.mem_cons_self]
    exact ih fun d member => each d (List.mem_cons_of_mem c member)

theorem Respelled.foldlM (respelled : Respelled first second)
    (mark : ∀ d ∈ quote, isQuote d = true) :
    first.foldlM quoteWithin quote = second.foldlM quoteWithin quote := by
  induction respelled generalizing quote with
  | same cs => rfl
  | name one other => rw [foldlM_name one mark, foldlM_name other mark]
  | append _ _ front back =>
    rw [List.foldlM_append, List.foldlM_append, ← front mark]
    refine Option.bind_congr fun between run => back (isQuote_of_foldlM mark run)

theorem IsTagPart.respelled (held : IsTagPart first quote) (respelled : Respelled first second) :
    IsTagPart second quote where
  filled := mt respelled.nil_iff.mpr held.filled
  begins := ⟨mt (respelled.head_iff (by decide)).mpr held.begins.1,
    mt (respelled.head_iff (by decide)).mpr held.begins.2⟩
  quotes := by
    rw [← respelled.foldlM (by simp)]
    exact held.quotes

theorem scanFrom_quotes (seen : List Token) (held : List Char)
    (run : inside.foldlM quoteWithin quote = some next) (rest : List Char) :
    scanFrom (.tag held quote) seen (inside ++ rest) =
      scanFrom (.tag (inside.reverse ++ held) next) seen rest := by
  induction inside generalizing held quote with
  | nil =>
    cases run
    rfl
  | cons c inside ih =>
    rw [List.foldlM_cons] at run
    obtain ⟨between, step, run⟩ := Option.bind_eq_some_iff.mp run
    simp only [quoteWithin] at step
    split at step
    · cases step
    · rename_i stays
      cases step
      have goes : Place.step (.tag held quote) c =
          .ok (.tag (c :: held) (quoteAfter quote c), none) := by
        simp only [Place.step, if_neg stays]
      rw [List.cons_append, scanFrom, goes]
      simpa using ih (c :: held) run

theorem isTagPart_single (question : c ≠ '?') (mark : c ≠ '!') (ends : c ≠ '>') :
    IsTagPart [c] (quoteAfter none c) where
  filled := List.cons_ne_nil _ _
  begins := ⟨fun same => question (Option.some.inj same), fun same => mark (Option.some.inj same)⟩
  quotes := by simp [quoteWithin, ends]

theorem IsTagPart.concat (part : IsTagPart inside quote) (stays : ¬ (c = '>' ∧ quote = none)) :
    IsTagPart (inside ++ [c]) (quoteAfter quote c) where
  filled := by simp
  begins := by
    have first : (inside ++ [c]).head? = inside.head? := by
      rw [List.head?_append, List.head?_eq_some_head part.filled, Option.some_or]
    rw [first]
    exact part.begins
  quotes := by
    rw [List.foldlM_append, part.quotes]
    simp [quoteWithin, stays]

theorem scanFrom_inside (seen : List Token) (part : IsTagPart inside quote) (rest : List Char) :
    scanFrom .markup seen (inside ++ rest) = scanFrom (.tag inside.reverse quote) seen rest := by
  obtain ⟨filled, begins, quotes⟩ := part
  obtain ⟨c, inside, rfl⟩ := List.exists_cons_of_ne_nil filled
  rw [List.foldlM_cons] at quotes
  obtain ⟨between, step, run⟩ := Option.bind_eq_some_iff.mp quotes
  simp only [quoteWithin] at step
  split at step
  · cases step
  · rename_i stays
    cases step
    have apart : c ≠ '?' ∧ c ≠ '!' ∧ c ≠ '>' :=
      ⟨fun same => begins.1 (congrArg some same), fun same => begins.2 (congrArg some same),
        fun same => stays (by simp [same])⟩
    have first : Place.step .markup c = .ok (.tag [c] (quoteAfter none c), none) := by
      simp [Place.step, apart]
    rw [List.cons_append, scanFrom, first, List.reverse_cons]
    exact scanFrom_quotes seen [c] run rest

end Insides

/-! ## Places -/

def Place.held : Place → List Char
  | tag inside _ => inside.reverse
  | _ => []

def Place.inTag : Place → Bool
  | tag .. => true
  | _ => false

def Place.front : Place → Place
  | tag .. => markup
  | place => place

def Place.Sound : Place → Prop
  | tag inside quote => IsTagPart inside.reverse quote
  | _ => True

namespace Renaming

variable (ρ : Renaming)

/-- A text from a place on. What a tag holds is written when its end, or that of the text, has been
seen. -/
def textFrom (place : Place) : List Char → List Char
  | [] => ρ.inside place.held
  | c :: rest =>
    match place.step c with
    | .error _ => c :: textFrom (.content []) rest
    | .ok (next, _) =>
      if next.inTag then textFrom next rest
      else ρ.inside place.held ++ c :: textFrom next rest

/-- A text with its prefixes under new names, in the declarations, the names of the elements and
those of the attributes. -/
def text (given : String) : String := spell (ρ.textFrom (.content []) given.toList)

variable {ρ} {place next : Place} {c : Char} {token : Option Token}

theorem inside_nil : ρ.inside [] = [] := by
  have none : ρ.start [] = [] := by
    simp [start, name_of_not_mem, attributesFrom, AttributePlace.held, key_nil]
  exact none

theorem token_textToken (data : List Char) :
    (textToken data).map ρ.token = textToken data := by
  unfold textToken
  split <;> rfl

theorem tag_of_step (sound : place.Sound) (step : place.step c = .ok (next, token))
    (within : next.inTag = true) : token = none ∧ place.front = next.front ∧ next.Sound := by
  cases place with
  | markup =>
    simp only [Place.step] at step
    split at step
    · cases step
      cases within
    · rename_i question
      split at step
      · cases step
        cases within
      · rename_i mark
        split at step
        · cases step
          cases within
        · rename_i ends
          cases step
          exact ⟨rfl, rfl, isTagPart_single question mark ends⟩
  | tag inside quote =>
    simp only [Place.step] at step
    split at step
    · cases step
      cases within
    · rename_i stays
      cases step
      refine ⟨rfl, rfl, ?_⟩
      rw [Place.Sound, List.reverse_cons]
      exact IsTagPart.concat sound stays
  | _ =>
    simp only [Place.step, Place.ofKeyword] at step
    repeat' split at step
    all_goals cases step
    all_goals cases within

theorem end_of_step {inside : List Char} {quote : Option Char}
    (step : Place.step (.tag inside quote) c = .ok (next, token)) (behind : next.inTag = false) :
    c = '>' ∧ quote = none ∧ next = .content [] ∧ token = some (Token.ofInside inside.reverse) := by
  simp only [Place.step] at step
  split at step
  · rename_i ends
    cases step
    exact ⟨ends.1, ends.2, rfl, rfl⟩
  · cases step
    cases behind

theorem token_of_step (outside : place.inTag = false) (step : place.step c = .ok (next, token)) :
    token.map ρ.token = token := by
  cases place with
  | tag inside quote => cases outside
  | content data =>
    simp only [Place.step] at step
    repeat' split at step
    all_goals cases step
    · exact token_textToken data
    · exact token_textToken data
    · rfl
    · rfl
  | markup =>
    have nameless : ρ.token (Token.ofInside []) = Token.ofInside [] := by
      rw [← ofInside_inside, inside_nil]
    simp only [Place.step] at step
    repeat' split at step
    all_goals cases step
    · rfl
    · rfl
    · exact congrArg some nameless
    · rfl
  | _ =>
    simp only [Place.step, Place.ofKeyword] at step
    repeat' split at step
    all_goals cases step
    all_goals rfl

theorem front_of_not_inTag (outside : place.inTag = false) : place.front = place := by
  cases place with
  | tag inside quote => cases outside
  | _ => rfl

theorem held_of_not_inTag (outside : place.inTag = false) : place.held = [] := by
  cases place with
  | tag inside quote => cases outside
  | _ => rfl

theorem sound_of_not_inTag (outside : place.inTag = false) : place.Sound := by
  cases place with
  | tag inside quote => cases outside
  | _ => trivial

theorem inTag_of_error {fault : MarkupFault} (step : place.step c = .error fault) :
    place.inTag = false := by
  cases place with
  | tag inside quote =>
    simp only [Place.step] at step
    split at step <;> cases step
  | _ => rfl

theorem scanFrom_textFrom (ρ : Renaming) (place : Place) (seen : List Token) (cs : List Char)
    (sound : place.Sound) :
    scanFrom place.front (seen.map ρ.token) (ρ.textFrom place cs) =
      ((scanFrom place seen cs).1.map ρ.token, (scanFrom place seen cs).2) := by
  induction cs generalizing place seen with
  | nil =>
    rw [textFrom]
    cases inTag : place.inTag with
    | true =>
      cases place with
      | tag inside quote =>
        have part := sound.respelled (respelled_inside ρ inside.reverse)
        have stays := scanFrom_inside (seen.map ρ.token) part []
        rw [List.append_nil] at stays
        refine stays.trans ?_
        simp [scanFrom, Place.finish]
      | _ => cases inTag
    | false =>
      rw [held_of_not_inTag inTag, inside_nil, front_of_not_inTag inTag, scanFrom, scanFrom]
      cases place with
      | content data =>
        have same := congrArg Option.toList (token_textToken (ρ := ρ) data)
        simp [Place.finish, ← Option.toList_map, same]
      | _ => simp [Place.finish]
  | cons c cs ih =>
    rw [textFrom]
    cases step : place.step c with
    | error fault =>
      have outside := inTag_of_error step
      simp only [scanFrom, front_of_not_inTag outside, step, List.map_reverse]
    | ok made =>
      obtain ⟨next, token⟩ := made
      cases within : next.inTag with
      | true =>
        obtain ⟨rfl, front, sound'⟩ := tag_of_step sound step within
        have rest := ih next seen sound'
        simpa [within, front, scanFrom, step] using rest
      | false =>
        have rest := ih next (token.toList ++ seen) (sound_of_not_inTag within)
        rw [front_of_not_inTag within] at rest
        simp only [within, Bool.false_eq_true, if_false]
        cases outside : place.inTag with
        | false =>
          have same := congrArg Option.toList (token_of_step (ρ := ρ) outside step)
          rw [List.map_append, ← Option.toList_map, same] at rest
          simpa [held_of_not_inTag outside, inside_nil, front_of_not_inTag outside, scanFrom, step]
            using rest
        | true =>
          cases place with
          | tag inside quote =>
            obtain ⟨rfl, rfl, rfl, rfl⟩ := end_of_step step within
            have part := sound.respelled (respelled_inside ρ inside.reverse)
            refine (scanFrom_inside _ part _).trans ?_
            simpa [scanFrom, Place.step, ofInside_inside] using rest
          | _ => cases outside

theorem textFrom_char (data cs : List Char) (markup : c ≠ '<') (reference : c ≠ '&') :
    ∃ data', ρ.textFrom (.content data) (c :: cs) = c :: ρ.textFrom (.content data') cs := by
  by_cases leading : (data.isEmpty && isXmlBlank c) = true
  · exact ⟨[], by simp [textFrom, Place.step, markup, reference, leading, Place.inTag, Place.held,
      inside_nil]⟩
  · exact ⟨c :: data, by simp [textFrom, Place.step, markup, reference, leading, Place.inTag,
      Place.held, inside_nil]⟩

theorem textFrom_content (first second cs : List Char) :
    ρ.textFrom (.content first) cs = ρ.textFrom (.content second) cs := by
  induction cs generalizing first second with
  | nil => rfl
  | cons c cs ih =>
    by_cases markup : c = '<'
    · simp [textFrom, Place.step, markup, Place.held]
    by_cases reference : c = '&'
    · simp [textFrom, Place.step, reference, Place.held]
    · obtain ⟨one, first⟩ := textFrom_char (ρ := ρ) first cs markup reference
      obtain ⟨other, second⟩ := textFrom_char (ρ := ρ) second cs markup reference
      rw [first, second, ih one other]

theorem unmarked_textFrom (ρ : Renaming) (cs : List Char) :
    unmarked (ρ.textFrom (.content []) cs) = ρ.textFrom (.content []) (unmarked cs) := by
  cases cs with
  | nil => simp [textFrom, Place.held, inside_nil, unmarked]
  | cons c cs =>
    by_cases markup : c = '<'
    · simp [textFrom, Place.step, markup, Place.held, Place.inTag, inside_nil, unmarked]
    by_cases reference : c = '&'
    · simp [textFrom, Place.step, reference, Place.held, Place.inTag, inside_nil, unmarked]
    · obtain ⟨data, begins⟩ := textFrom_char (ρ := ρ) [] cs markup reference
      by_cases mark : c = '\ufeff'
      · subst mark
        rw [begins]
        exact textFrom_content data [] cs
      · simp [begins, unmarked, mark]

theorem scan_textFrom (ρ : Renaming) (cs : List Char) :
    scan (ρ.textFrom (.content []) cs) = ((scan cs).1.map ρ.token, (scan cs).2) := by
  rw [scan_eq, unmarked_textFrom, scan_eq]
  exact scanFrom_textFrom ρ (.content []) [] (unmarked cs) trivial

/-! ## Events -/

variable (ρ)

def event : Event → Event
  | .start space label tag => .start space label (ρ.tag tag)
  | .stop => .stop
  | .text content => .text content

variable {ρ}

theorem enter_scope (ρ : Renaming) (scope : Scope) (tag : Tag) :
    ((ρ.scope scope).enter (ρ.tag tag)).toOption = (scope.enter tag).toOption.map ρ.scope := by
  have declared : ((attributes tag.attributes).1.map ρ.keyed).filterMap Attribute.binding? =
      ((attributes tag.attributes).1.filterMap Attribute.binding?).map ρ.binding := by
    have each : Attribute.binding? ∘ ρ.keyed = fun a => a.binding?.map ρ.binding :=
      funext binding?_keyed
    rw [List.filterMap_map, each, List.map_filterMap]
  simp only [Scope.enter, attributes_tag, declared, List.find?_map, Function.comp_def,
    allowed_binding]
  generalize (attributes tag.attributes).1.filterMap Attribute.binding? = bindings
  cases bindings.find? (! ·.allowed) with
  | some b => rfl
  | none => simp [Renaming.scope, Except.toOption]

theorem start_scope (ρ : Renaming) (scope : Scope) (tag : Tag) :
    (ρ.scope scope).start (ρ.tag tag) = ρ.event (scope.start tag) := by
  simp only [Scope.start, Renaming.tag, resolve_scope, event]

theorem scope_nest (ρ : Renaming) (nest : Nest) : (ρ.nest nest).scope = ρ.scope nest.scope := by
  cases nest with
  | nil => rfl
  | cons innermost outer => rfl

theorem nest_step (ρ : Renaming) (nest : Nest) (token : Token) :
    ((ρ.nest nest).step (ρ.token token)).toOption =
      (nest.step token).toOption.map fun (inner, found) => (ρ.nest inner, found.map ρ.event) := by
  cases token with
  | text content => rfl
  | opening tag =>
    simp only [Nest.step, Renaming.token, scope_nest, toOption_bind, enter_scope]
    cases (nest.scope.enter tag).toOption with
    | none => rfl
    | some scope =>
      have opened : (ρ.tag tag).name = ρ.nameString tag.name := rfl
      simp [Except.toOption, start_scope, Renaming.nest, opened]
  | empty tag =>
    simp only [Nest.step, Renaming.token, scope_nest, toOption_bind, enter_scope]
    cases (nest.scope.enter tag).toOption with
    | none => rfl
    | some scope => simp [Except.toOption, start_scope, event]
  | closing name =>
    cases nest with
    | nil => rfl
    | cons innermost outer =>
      obtain ⟨opened, scope⟩ := innermost
      have same : ρ.nameString opened = ρ.nameString name ↔ opened = name :=
        ⟨nameString_injective, congrArg _⟩
      simp only [Nest.step, Renaming.token, Renaming.nest, List.map_cons, same]
      split <;> rfl

theorem eventsFrom_nest (ρ : Renaming) (nest : Nest) (seen : List Event)
    (fault : Option MarkupFault) (tokens : List Token) :
    (eventsFrom (ρ.nest nest) (seen.map ρ.event) fault (tokens.map ρ.token)).1 =
        (eventsFrom nest seen fault tokens).1.map ρ.event ∧
      (eventsFrom (ρ.nest nest) (seen.map ρ.event) fault (tokens.map ρ.token)).2.isSome =
        (eventsFrom nest seen fault tokens).2.isSome := by
  induction tokens generalizing nest seen with
  | nil => simp [eventsFrom]
  | cons token tokens ih =>
    have same := nest_step ρ nest token
    rw [List.map_cons, eventsFrom, eventsFrom]
    cases stepped : nest.step token with
    | error fault' =>
      rw [stepped] at same
      cases renamed : (ρ.nest nest).step (ρ.token token) with
      | error other => simp
      | ok made =>
        rw [renamed] at same
        cases same
    | ok made =>
      obtain ⟨inner, found⟩ := made
      rw [stepped] at same
      cases renamed : (ρ.nest nest).step (ρ.token token) with
      | error other =>
        rw [renamed] at same
        cases same
      | ok made =>
        rw [renamed] at same
        obtain rfl := Option.some.inj same
        have rest := ih inner (found.reverse ++ seen)
        simpa using rest

theorem events_text (ρ : Renaming) (given : String) :
    (events (ρ.text given)).1 = (events given).1.map ρ.event ∧
      (events (ρ.text given)).2.isSome = (events given).2.isSome := by
  simp only [events, text, spell, String.toList_ofList, scan_textFrom]
  exact eventsFrom_nest ρ [] [] _ _

def swap (p q : List Char) (one : IsPrefix p) (other : IsPrefix q) : Renaming where
  rename given := if given = p then q else if given = q then p else given
  legal := by
    intro given legal
    split
    · exact other
    · split
      · exact one
      · exact legal
  injective := by
    intro first second _ _ same
    grind

example : (swap ['p'] ['q'] (by decide) (by decide)).text
    "<p:a xmlns:p='1' xmlns='2' q:b='p:c' p:d = \"<p:e>\"><!-- p:f --><q:g/></p:a >" =
    "<q:a xmlns:q='1' xmlns='2' p:b='p:c' q:d = \"<p:e>\"><!-- p:f --><p:g/></q:a >" := by
  decide +kernel

end Renaming
end Bindery.Xml
