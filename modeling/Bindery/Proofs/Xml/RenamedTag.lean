import Bindery.Proofs.Xml.Renaming

/-! Tags under other names. A tag and its renamed form differ in names alone, so that the quotes in
them and their ends are the same, and a scan finds the renamed attributes in the renamed tag. -/
namespace Bindery.Xml

/-! ## Texts that differ in names -/

inductive Respelled : List Char → List Char → Prop where
  | same (cs : List Char) : Respelled cs cs
  | name {first second : List Char} : IsName first → IsName second → Respelled first second
  | append {first second before behind : List Char} : Respelled first second →
      Respelled before behind → Respelled (first ++ before) (second ++ behind)

namespace Respelled

variable {first second : List Char}

theorem nil_iff (respelled : Respelled first second) : first = [] ↔ second = [] := by
  induction respelled with
  | same cs => rfl
  | name one other => exact ⟨fun none => absurd none one.1, fun none => absurd none other.1⟩
  | append _ _ one other => rw [List.append_eq_nil_iff, List.append_eq_nil_iff, one, other]

theorem head_iff (respelled : Respelled first second) {d : Char} (other : isNameChar d = false) :
    first.head? = some d ↔ second.head? = some d := by
  have noName {name : List Char} (named : IsName name) : name.head? ≠ some d := fun begins =>
    named.not_mem other (List.mem_of_head? begins)
  induction respelled with
  | same cs => rfl
  | name one two => exact ⟨fun begins => absurd begins (noName one), fun begins =>
      absurd begins (noName two)⟩
  | @append first second before behind respelled _ front back =>
    rw [List.head?_append, List.head?_append]
    by_cases none : first = []
    · rw [none, respelled.nil_iff.mp none]
      exact back
    · have begun : second ≠ [] := mt respelled.nil_iff.mpr none
      rw [List.head?_eq_some_head none, List.head?_eq_some_head begun] at front ⊢
      exact front

theorem exists_cons {c : Char} {rest : List Char} (respelled : Respelled (c :: rest) second) :
    ∃ d behind, second = d :: behind ∧ (d = c ∨ isNameChar d = true) := by
  have some : second ≠ [] := mt respelled.nil_iff.mpr (List.cons_ne_nil c rest)
  obtain ⟨d, behind, rfl⟩ := List.exists_cons_of_ne_nil some
  refine ⟨d, behind, rfl, ?_⟩
  cases named : isNameChar d with
  | true => exact .inr rfl
  | false => exact .inl (Option.some.inj ((respelled.head_iff named).mpr rfl)).symm

theorem getLast_iff (respelled : Respelled first second) {d : Char}
    (other : isNameChar d = false) : first.getLast? = some d ↔ second.getLast? = some d := by
  have noName {name : List Char} (named : IsName name) : name.getLast? ≠ some d := fun ends =>
    named.not_mem other (List.mem_of_getLast? ends)
  induction respelled with
  | same cs => rfl
  | name one two => exact ⟨fun ends => absurd ends (noName one), fun ends =>
      absurd ends (noName two)⟩
  | @append first second before behind _ respelled front back =>
    rw [List.getLast?_append, List.getLast?_append]
    by_cases none : before = []
    · rw [none, respelled.nil_iff.mp none]
      exact front
    · have begun : behind ≠ [] := mt respelled.nil_iff.mpr none
      rw [List.getLast?_eq_some_getLast none, List.getLast?_eq_some_getLast begun] at back ⊢
      exact back

section
variable {P : Char → Prop} (names : ∀ c, isNameChar c = true → P c)
include names

theorem forall_mem (respelled : Respelled first second) (all : ∀ c ∈ first, P c) :
    ∀ c ∈ second, P c := by
  induction respelled with
  | same cs => exact all
  | name _ other => exact fun c member => names c (other.2 c member)
  | append _ _ one other =>
    obtain ⟨front, back⟩ := List.forall_mem_append.mp all
    exact List.forall_mem_append.mpr ⟨one front, other back⟩

theorem forall_mem_tail (respelled : Respelled first second) (all : ∀ c ∈ first.tail, P c) :
    ∀ c ∈ second.tail, P c := by
  induction respelled with
  | same cs => exact all
  | name _ other => exact fun c member => names c (other.2 c (List.mem_of_mem_tail member))
  | @append first second before behind front back one other =>
    by_cases none : first = []
    · rw [none] at all
      rw [front.nil_iff.mp none]
      exact other all
    · rw [List.tail_append_of_ne_nil none] at all
      rw [List.tail_append_of_ne_nil (mt front.nil_iff.mpr none)]
      obtain ⟨begins, ends⟩ := List.forall_mem_append.mp all
      exact List.forall_mem_append.mpr ⟨one begins, back.forall_mem names ends⟩

end

end Respelled

namespace Renaming

variable {ρ : Renaming} {given : List Char}

theorem respelled_label (ρ : Renaming) (given : List Char) : Respelled given (ρ.label given) := by
  by_cases legal : IsPrefix given
  · exact .name legal.1 (isPrefix_label legal).1
  · rw [label_of_not legal]
    exact .same given

theorem respelled_name (ρ : Renaming) (given : List Char) : Respelled given (ρ.name given) := by
  rcases name_cases given with ⟨p, rest, rfl, absent⟩ | absent
  · rw [name_prefixed rest absent]
    exact .append (respelled_label ρ p) (.same _)
  · rw [name_of_not_mem absent]
    exact .same given

theorem respelled_key (ρ : Renaming) (given : List Char) : Respelled given (ρ.key given) := by
  by_cases declares : "xmlns:".toList <+: given
  · obtain ⟨p, rfl⟩ := declares
    rw [key_declaring]
    exact .append (.same _) (respelled_label ρ p)
  · rw [key_of_not declares]
    exact respelled_name ρ given

end Renaming

/-! ## Attributes in a tag -/

def AttributePlace.held : AttributePlace → List Char
  | name part => part.reverse
  | _ => []

def AttributePlace.inName : AttributePlace → Bool
  | name _ => true
  | _ => false

/-- What a scan takes for the name of an attribute. Only its first character may be an equals
sign. -/
def IsKey (word : List Char) : Prop :=
  (∀ c ∈ word.head?, isXmlBlank c = false) ∧ word ≠ [] ∧
    ∀ c ∈ word.tail, c ≠ '=' ∧ isXmlBlank c = false

theorem IsKey.concat {word : List Char} (isKey : IsKey word) {c : Char} (equals : c ≠ '=')
    (solid : isXmlBlank c = false) : IsKey (word ++ [c]) := by
  obtain ⟨begins, some, rest⟩ := isKey
  obtain ⟨d, cs, rfl⟩ := List.exists_cons_of_ne_nil some
  refine ⟨begins, List.cons_ne_nil _ _, ?_⟩
  exact List.forall_mem_append.mpr ⟨rest, List.forall_mem_singleton.mpr ⟨equals, solid⟩⟩

theorem attributesFrom_key (seen : List Attribute) {word : List Char} (isKey : IsKey word)
    (rest : List Char) : attributesFrom .gap seen (word ++ rest) =
      attributesFrom (.name word.reverse) seen rest := by
  obtain ⟨begins, some, solid⟩ := isKey
  obtain ⟨c, cs, rfl⟩ := List.exists_cons_of_ne_nil some
  have first : AttributePlace.step .gap c = .ok (.name [c], none) := by
    simp [AttributePlace.step, begins c rfl]
  rw [List.cons_append, attributesFrom, first]
  simp only [Option.toList_none, List.nil_append]
  rw [attributesFrom_name seen [c] cs rest solid, List.reverse_cons]

theorem Renaming.isKey_key (ρ : Renaming) {word : List Char} (isKey : IsKey word) :
    IsKey (ρ.key word) := by
  obtain ⟨begins, some, solid⟩ := isKey
  have respelled := respelled_key ρ word
  refine ⟨?_, mt respelled.nil_iff.mpr some, ?_⟩
  · intro c first
    cases blank : isXmlBlank c with
    | false => rfl
    | true =>
      have noName : isNameChar c = false := by simp [isNameChar, blank]
      have front := (respelled.head_iff noName).mpr first
      exact absurd (begins c front) (by simp [blank])
  · refine respelled.forall_mem_tail (fun c named => ?_) solid
    exact ⟨isNameChar_ne named (by decide), isNameChar_not_blank named⟩

namespace Renaming

variable (ρ : Renaming)

/-- The attributes of a tag, from a place on, with their prefixes under new names. A name is written
when what comes behind it has been seen, and behind a fault names begin anew. -/
def attributesFrom (place : AttributePlace) : List Char → List Char
  | [] => ρ.key place.held
  | c :: rest =>
    match place.step c with
    | .error _ => attributesFrom (.name [c]) rest
    | .ok (next, _) =>
      if next.inName then attributesFrom next rest
      else ρ.key place.held ++ c :: attributesFrom next rest

/-- The place in the renamed attributes. In front of a name it is the place where the name begins. -/
def place : AttributePlace → AttributePlace
  | .gap | .name _ => .gap
  | .equals name => .equals (ρ.key name)
  | .value name => .value (ρ.key name)
  | .quoted name quote part => .quoted (ρ.key name) quote part

variable {ρ} {place next : AttributePlace} {c d : Char} {found : Option Attribute}

theorem key_nil : ρ.key [] = [] := key_of_not_mem List.not_mem_nil

theorem step_place (outside : place.inName = false) (step : place.step c = .ok (next, found))
    (behind : next.inName = false) :
    (ρ.place place).step c = .ok (ρ.place next, found.map ρ.keyed) := by
  cases place with
  | name part => cases outside
  | gap =>
    simp only [AttributePlace.step] at step
    split at step
    · rename_i blank
      cases step
      simp [Renaming.place, AttributePlace.step, blank]
    · cases step
      cases behind
  | equals name =>
    simp only [AttributePlace.step] at step
    split at step
    · rename_i blank
      cases step
      simp [Renaming.place, AttributePlace.step, blank]
    · split at step
      · rename_i equals
        subst equals
        cases step
        rfl
      · cases step
  | value name =>
    simp only [AttributePlace.step] at step
    split at step
    · rename_i blank
      cases step
      simp [Renaming.place, AttributePlace.step, blank]
    · rename_i solid
      split at step
      · rename_i quotes
        cases step
        simp [Renaming.place, AttributePlace.step, solid, quotes]
      · cases step
  | quoted name quote part =>
    simp only [AttributePlace.step] at step
    split at step
    · rename_i ends
      cases step
      simp [Renaming.place, AttributePlace.step, ends, keyed]
    · rename_i stays
      cases step
      simp [Renaming.place, AttributePlace.step, stays]

theorem inName_of_error {fault : AttributeFault} (step : place.step c = .error fault) :
    place.inName = false := by
  cases place with
  | name part =>
    simp only [AttributePlace.step] at step
    repeat' split at step
    all_goals cases step
  | _ => rfl

theorem step_place_error {fault : AttributeFault} (step : place.step c = .error fault)
    (other : d = c ∨ isNameChar d = true) : (ρ.place place).step d = .error fault := by
  have outside := inName_of_error step
  cases place with
  | gap =>
    simp only [AttributePlace.step] at step
    split at step <;> cases step
  | name part => cases outside
  | equals name =>
    have here : isXmlBlank d = false ∧ d ≠ '=' ∧ fault = .noEquals := by
      simp only [AttributePlace.step] at step
      split at step
      · cases step
      · rename_i solid
        split at step
        · cases step
        · rename_i apart
          cases step
          rcases other with rfl | named
          · exact ⟨Bool.eq_false_iff.mpr solid, apart, rfl⟩
          · exact ⟨isNameChar_not_blank named, isNameChar_ne named (by decide), rfl⟩
    simp [Renaming.place, AttributePlace.step, here]
  | value name =>
    have here : isXmlBlank d = false ∧ d ≠ '"' ∧ d ≠ '\'' ∧ fault = .unquoted := by
      simp only [AttributePlace.step] at step
      split at step
      · cases step
      · rename_i solid
        split at step
        · cases step
        · rename_i apart
          cases step
          rcases other with rfl | named
          · exact ⟨Bool.eq_false_iff.mpr solid, not_or.mp apart |>.1, not_or.mp apart |>.2, rfl⟩
          · exact ⟨isNameChar_not_blank named, isNameChar_ne named (by decide),
              isNameChar_ne named (by decide), rfl⟩
    simp [Renaming.place, AttributePlace.step, here]
  | quoted name quote part =>
    simp only [AttributePlace.step] at step
    split at step <;> cases step

theorem held_of_step (step : place.step c = .ok (next, found)) (within : next.inName = true) :
    next.held = place.held ++ [c] ∧ found = none ∧ ρ.place place = ρ.place next ∧
      ((place.inName = true → IsKey place.held) → IsKey next.held) := by
  cases place with
  | gap =>
    simp only [AttributePlace.step] at step
    split at step
    · cases step
      cases within
    · rename_i solid
      cases step
      refine ⟨rfl, rfl, rfl, fun _ => ⟨?_, List.cons_ne_nil _ _, by simp [AttributePlace.held]⟩⟩
      rintro d ⟨⟩
      exact Bool.eq_false_iff.mpr solid
  | name part =>
    simp only [AttributePlace.step] at step
    split at step
    · cases step
      cases within
    · rename_i equals
      split at step
      · cases step
        cases within
      · rename_i solid
        cases step
        refine ⟨List.reverse_cons, rfl, rfl, fun isKey => ?_⟩
        rw [AttributePlace.held, List.reverse_cons]
        exact (isKey rfl).concat equals (Bool.eq_false_iff.mpr solid)
  | _ =>
    simp only [AttributePlace.step] at step
    repeat' split at step
    all_goals cases step
    all_goals cases within

theorem step_name {part : List Char}
    (step : AttributePlace.step (.name part) c = .ok (next, found)) (behind : next.inName = false) :
    AttributePlace.step (.name (ρ.key part.reverse).reverse) c =
      .ok (ρ.place next, found.map ρ.keyed) := by
  simp only [AttributePlace.step] at step
  split at step
  · rename_i equals
    cases step
    simp [AttributePlace.step, equals, Renaming.place]
  · rename_i apart
    split at step
    · rename_i blank
      cases step
      simp [AttributePlace.step, apart, blank, Renaming.place]
    · cases step
      cases behind

theorem held_of_not_inName (outside : place.inName = false) : place.held = [] := by
  cases place with
  | name part => cases outside
  | _ => rfl

theorem respelled_attributesFrom (ρ : Renaming) (place : AttributePlace) (cs : List Char) :
    Respelled (place.held ++ cs) (ρ.attributesFrom place cs) := by
  induction cs generalizing place with
  | nil =>
    rw [List.append_nil]
    exact respelled_key ρ place.held
  | cons c cs ih =>
    rw [attributesFrom]
    cases step : place.step c with
    | error fault =>
      rw [held_of_not_inName (inName_of_error step)]
      exact ih (.name [c])
    | ok made =>
      obtain ⟨next, found⟩ := made
      cases within : next.inName with
      | true =>
        have held := (held_of_step (ρ := ρ) step within).1
        have rest := ih next
        rw [held, List.append_assoc] at rest
        simpa [within] using rest
      | false =>
        have rest := ih next
        rw [held_of_not_inName within] at rest
        have whole := (respelled_key ρ place.held).append ((Respelled.same [c]).append rest)
        simpa [within] using whole

theorem attributesFrom_place (ρ : Renaming) (place : AttributePlace) (seen : List Attribute)
    (cs : List Char) (isKey : place.inName = true → IsKey place.held) :
    Xml.attributesFrom (ρ.place place) (seen.map ρ.keyed) (ρ.attributesFrom place cs) =
      ((Xml.attributesFrom place seen cs).1.map ρ.keyed, (Xml.attributesFrom place seen cs).2) := by
  induction cs generalizing place seen with
  | nil =>
    cases place with
    | name part =>
      have renamed := attributesFrom_key (seen.map ρ.keyed) (ρ.isKey_key (isKey rfl)) []
      rw [List.append_nil] at renamed
      rw [attributesFrom]
      refine renamed.trans ?_
      simp [Xml.attributesFrom, AttributePlace.fault?]
    | _ => simp [attributesFrom, AttributePlace.held, key_nil, Xml.attributesFrom, Renaming.place,
        AttributePlace.fault?]
  | cons c cs ih =>
    rw [attributesFrom]
    cases step : place.step c with
    | error fault =>
      have respelled := respelled_attributesFrom ρ (.name [c]) cs
      obtain ⟨d, rest, same, other⟩ := respelled.exists_cons
      simp only [same, Xml.attributesFrom, step, step_place_error step other, List.map_reverse]
    | ok made =>
      obtain ⟨next, found⟩ := made
      cases within : next.inName with
      | true =>
        obtain ⟨-, rfl, here, keys⟩ := held_of_step (ρ := ρ) step within
        have rest := ih next seen fun _ => keys isKey
        simpa [within, here, Xml.attributesFrom, step] using rest
      | false =>
        have rest := ih next (found.toList ++ seen) (by simp [within])
        have seen' : (found.toList ++ seen).map ρ.keyed =
            (found.map ρ.keyed).toList ++ seen.map ρ.keyed := by
          cases found <;> simp
        rw [seen'] at rest
        simp only [within, Bool.false_eq_true, if_false, Xml.attributesFrom, step]
        cases place with
        | name part =>
          refine (attributesFrom_key _ (ρ.isKey_key (isKey rfl)) _).trans ?_
          simp only [AttributePlace.held, Xml.attributesFrom, step_name step within, rest]
        | _ =>
          simp only [AttributePlace.held, key_nil, List.nil_append, Xml.attributesFrom,
            step_place rfl step within, rest]

/-! ## Tags -/

variable (ρ)

def start (inside : List Char) : List Char :=
  ρ.name (inside.takeWhile (! isXmlBlank ·)) ++
    ρ.attributesFrom .gap (inside.dropWhile (! isXmlBlank ·))

def inside : List Char → List Char
  | '/' :: closing => '/' :: ρ.name closing
  | inside =>
    if inside.getLast? = some '/' then ρ.start inside.dropLast ++ ['/'] else ρ.start inside

def tag (t : Tag) : Tag := ⟨ρ.nameString t.name, ρ.attributesFrom .gap t.attributes⟩

def token : Token → Token
  | .opening t => .opening (ρ.tag t)
  | .empty t => .empty (ρ.tag t)
  | .closing name => .closing (ρ.nameString name)
  | .text content => .text content

variable {ρ}

theorem inside_of_head {inside : List Char} (other : inside.head? ≠ some '/') : ρ.inside inside =
    if inside.getLast? = some '/' then ρ.start inside.dropLast ++ ['/'] else ρ.start inside := by
  unfold Renaming.inside
  split
  · exact absurd rfl other
  · rfl

theorem ofInside_of_head {inside : List Char} (other : inside.head? ≠ some '/') :
    Token.ofInside inside =
      if inside.getLast? = some '/' then .empty (Tag.ofInside inside.dropLast)
      else .opening (Tag.ofInside inside) := by
  unfold Token.ofInside
  split
  · exact absurd rfl other
  · rfl

theorem respelled_start (ρ : Renaming) (inside : List Char) :
    Respelled inside (ρ.start inside) := by
  have parts := (respelled_name ρ (inside.takeWhile (! isXmlBlank ·))).append
    (respelled_attributesFrom ρ .gap (inside.dropWhile (! isXmlBlank ·)))
  rw [held_of_not_inName rfl, List.nil_append, List.takeWhile_append_dropWhile] at parts
  exact parts

theorem respelled_inside (ρ : Renaming) (inside : List Char) :
    Respelled inside (ρ.inside inside) := by
  unfold Renaming.inside
  split
  · rename_i closing
    exact (Respelled.same ['/']).append (respelled_name ρ closing)
  · split
    · rename_i last
      obtain ⟨front, rfl⟩ := List.getLast?_eq_some_iff.mp last
      rw [List.dropLast_concat]
      exact (respelled_start ρ front).append (.same ['/'])
    · exact respelled_start ρ inside

theorem ofInside_start (ρ : Renaming) (inside : List Char) :
    Tag.ofInside (ρ.start inside) = ρ.tag (Tag.ofInside inside) := by
  have solid : ∀ c ∈ ρ.name (inside.takeWhile (! isXmlBlank ·)), (! isXmlBlank c) = true :=
    (respelled_name ρ _).forall_mem (fun c named => by simp [isNameChar_not_blank named])
      (List.all_eq_true.mp List.all_takeWhile)
  rw [Tag.ofInside, start, List.takeWhile_append_of_pos solid, List.dropWhile_append_of_pos solid,
    Tag.ofInside, tag]
  cases behind : inside.dropWhile (! isXmlBlank ·) with
  | nil => simp [attributesFrom, AttributePlace.held, key_nil, nameString, spell]
  | cons c rest =>
    have blank : isXmlBlank c = true := by
      have begins := List.head?_dropWhile_not (! isXmlBlank ·) inside
      simpa [behind] using begins
    have noName : isNameChar c = false := by simp [isNameChar, blank]
    have first := ((respelled_attributesFrom ρ .gap (c :: rest)).head_iff noName).mp rfl
    obtain ⟨attributes, same⟩ := List.head?_eq_some_iff.mp first
    simp [same, blank, nameString, spell]

theorem attributes_tag (ρ : Renaming) (t : Tag) : attributes (ρ.tag t).attributes =
    ((attributes t.attributes).1.map ρ.keyed, (attributes t.attributes).2) :=
  attributesFrom_place ρ .gap [] t.attributes nofun

theorem closingName_name (ρ : Renaming) (closing : List Char) :
    closingName (ρ.name closing) = ρ.nameString (closingName closing) := by
  rcases name_cases closing with ⟨p, rest, rfl, absent⟩ | absent
  · have colon : isXmlBlank ':' = false := by decide
    have trimmed (label : List Char) : closingName (label ++ ':' :: rest) =
        spell (label ++ ':' :: trimEnd isXmlBlank rest) := by
      rw [closingName, trimEnd_append_cons isXmlBlank label rest colon]
      split
      · rename_i none
        exact absurd none (by simp)
      · rfl
    rw [name_prefixed rest absent, trimmed, trimmed]
    simp only [nameString, spell, String.toList_ofList, name_prefixed _ absent]
  · have trimmed : ':' ∉ (closingName closing).toList := by
      obtain ⟨blanks, parts, -⟩ := eq_trimEnd_append isXmlBlank closing
      unfold closingName
      split
      · simpa [spell] using absent
      · rw [parts] at absent
        simpa [spell] using fun member => absent (List.mem_append_left blanks member)
    rw [name_of_not_mem absent, nameString, name_of_not_mem trimmed]
    simp [spell]

theorem ofInside_inside (ρ : Renaming) (inside : List Char) :
    Token.ofInside (ρ.inside inside) = ρ.token (Token.ofInside inside) := by
  by_cases closes : inside.head? = some '/'
  · obtain ⟨closing, rfl⟩ := List.head?_eq_some_iff.mp closes
    exact congrArg Token.closing (closingName_name ρ closing)
  · have slash : isNameChar '/' = false := by decide
    have begun := mt ((respelled_inside ρ inside).head_iff slash).mpr closes
    rw [ofInside_of_head begun, ofInside_of_head closes, inside_of_head closes]
    by_cases ends : inside.getLast? = some '/'
    · rw [if_pos ends, if_pos ends, if_pos List.getLast?_concat, List.dropLast_concat,
        ofInside_start]
      rfl
    · have open' := mt ((respelled_start ρ inside).getLast_iff slash).mpr ends
      rw [if_neg ends, if_neg ends, if_neg open', ofInside_start]
      rfl

end Renaming
end Bindery.Xml
