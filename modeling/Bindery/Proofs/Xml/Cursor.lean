import Bindery.Proofs.Action
import Bindery.Proofs.Xml.Tree

/-! Texts in parts. The scan and the nest of open elements make up one cursor, and all that a text
makes of what comes behind a part of it depends on the cursor there. Between two pieces of markup
the character data in front of the cursor has no part in that but for the texts that come next. -/
namespace Bindery.Xml

/-- Where in a text one stands: in the markup, and inside which elements. -/
structure Cursor where
  place : Place
  nest : Nest
deriving DecidableEq, Repr

/-- The cursor behind one more character, and the events that the character completes. -/
def Cursor.step (here : Cursor) (c : Char) : Except MarkupFault (Cursor × List Event) :=
  match here.place.step c with
  | .error fault => .error fault
  | .ok (place, none) => .ok (⟨place, here.nest⟩, [])
  | .ok (place, some token) =>
    match here.nest.step token with
    | .error fault => .error fault
    | .ok (nest, found) => .ok (⟨place, nest⟩, found)

def Cursor.after (here : Cursor) : List Char → Except MarkupFault (Cursor × List Event)
  | [] => .ok (here, [])
  | c :: cs => do
    let (next, found) ← here.step c
    let (there, later) ← next.after cs
    .ok (there, found ++ later)

/-- The events of the rest of a text up to its end or to the first fault, and that fault. -/
def Cursor.remaining (here : Cursor) (rest : List Char) : List Event × Option MarkupFault :=
  let (tokens, fault) := scanFrom here.place [] rest
  eventsFrom here.nest [] fault tokens

def Cursor.Reads (here : Cursor) (part : List Char) (found : List Event) (there : Cursor) : Prop :=
  here.after part = .ok (there, found)

section Parts

variable {here next there : Cursor} {c : Char} {part first second : List Char}
  {found later : List Event}

theorem Cursor.Reads.nil (here : Cursor) : here.Reads [] [] here := rfl

theorem Cursor.Reads.cons (step : here.step c = .ok (next, found))
    (reads : next.Reads part later there) : here.Reads (c :: part) (found ++ later) there := by
  have rest : next.after part = .ok (there, later) := reads
  simp only [Reads, after, step, bind, Except.bind, rest]

theorem Cursor.Reads.skip (step : here.step c = .ok (next, []))
    (reads : next.Reads part found there) : here.Reads (c :: part) found there :=
  reads.cons step

theorem Cursor.Reads.exists_of_cons (reads : here.Reads (c :: part) found there) :
    ∃ next first later, here.step c = .ok (next, first) ∧ next.Reads part later there ∧
      found = first ++ later := by
  simp only [Reads, after] at reads
  obtain ⟨⟨next, first⟩, step, reads⟩ := ok_of_bind reads
  obtain ⟨⟨last, later⟩, rest, made⟩ := ok_of_bind reads
  cases made
  exact ⟨next, first, later, step, rest, rfl⟩

theorem Cursor.Reads.append (before : here.Reads first found next)
    (behind : next.Reads second later there) :
    here.Reads (first ++ second) (found ++ later) there := by
  induction first generalizing here found with
  | nil =>
    cases before
    exact behind
  | cons c first ih =>
    obtain ⟨_, begun, ended, step, rest, rfl⟩ := before.exists_of_cons
    rw [List.append_assoc]
    exact (ih rest).cons step

end Parts

/-! ## What comes behind a part -/

theorem scanFrom_seen (place : Place) (seen : List Token) (cs : List Char) :
    scanFrom place seen cs =
      (seen.reverse ++ (scanFrom place [] cs).1, (scanFrom place [] cs).2) := by
  induction cs generalizing place seen with
  | nil =>
    simp only [scanFrom]
    cases place.finish <;> simp
  | cons c cs ih =>
    simp only [scanFrom]
    cases place.step c with
    | error fault => simp
    | ok made =>
      obtain ⟨next, token⟩ := made
      simp only []
      rw [ih next (token.toList ++ seen), ih next (token.toList ++ [])]
      simp

theorem eventsFrom_seen (nest : Nest) (seen : List Event) (fault : Option MarkupFault)
    (tokens : List Token) :
    eventsFrom nest seen fault tokens =
      (seen.reverse ++ (eventsFrom nest [] fault tokens).1,
        (eventsFrom nest [] fault tokens).2) := by
  induction tokens generalizing nest seen with
  | nil => simp [eventsFrom]
  | cons token tokens ih =>
    simp only [eventsFrom]
    cases nest.step token with
    | error fault => simp
    | ok made =>
      obtain ⟨next, found⟩ := made
      simp only []
      rw [ih next (found.reverse ++ seen), ih next (found.reverse ++ [])]
      simp

theorem remaining_of_step {here next : Cursor} {c : Char} {found : List Event}
    (step : here.step c = .ok (next, found)) (rest : List Char) :
    here.remaining (c :: rest) = (found ++ (next.remaining rest).1, (next.remaining rest).2) := by
  obtain ⟨place, nest⟩ := here
  simp only [Cursor.step] at step
  simp only [Cursor.remaining, scanFrom]
  cases placed : place.step c with
  | error fault => simp [placed] at step
  | ok made =>
    obtain ⟨behind, token⟩ := made
    simp only [placed] at step
    simp only [scanFrom_seen behind (token.toList ++ [])]
    cases token with
    | none =>
      cases step
      rfl
    | some token =>
      cases nested : nest.step token with
      | error fault => simp [nested] at step
      | ok made =>
        obtain ⟨inner, first⟩ := made
        simp only [nested] at step
        cases step
        simp only [Option.toList_some, List.append_nil, List.reverse_singleton,
          List.singleton_append, eventsFrom, nested]
        rw [eventsFrom_seen, List.reverse_reverse]

theorem Cursor.Reads.remaining {here there : Cursor} {part : List Char} {found : List Event}
    (reads : here.Reads part found there) (rest : List Char) :
    here.remaining (part ++ rest) =
      (found ++ (there.remaining rest).1, (there.remaining rest).2) := by
  induction part generalizing here found with
  | nil =>
    cases reads
    rfl
  | cons c part ih =>
    obtain ⟨next, first, later, step, behind, rfl⟩ := reads.exists_of_cons
    rw [List.cons_append, remaining_of_step step, ih behind, List.append_assoc]

def unmarked : List Char → List Char
  | '\ufeff' :: text => text
  | text => text

def Cursor.start : Cursor := ⟨.content [], []⟩

theorem scan_eq (text : List Char) : scan text = scanFrom (.content []) [] (unmarked text) := by
  cases text with
  | nil => rfl
  | cons c text =>
    by_cases mark : c = '\ufeff'
    · subst mark
      rfl
    · simp [scan, unmarked, mark]

theorem events_eq_remaining (text : String) :
    events text = Cursor.start.remaining (unmarked text.toList) := by
  rw [events, scan_eq]
  rfl

theorem unmarked_append {before rest : List Char} (begins : before = [] → unmarked rest = rest) :
    unmarked (before ++ rest) = unmarked before ++ rest := by
  cases before with
  | nil => exact begins rfl
  | cons c before =>
    by_cases mark : c = '\ufeff'
    · subst mark
      rfl
    · simp [unmarked, mark]

/-- A text ends between two pieces of markup: in character data, inside the elements of `nest`. -/
def EndsIn (text : List Char) (nest : Nest) : Prop :=
  ∃ found data, Cursor.start.Reads (unmarked text) found ⟨.content data, nest⟩

theorem endsIn_append {before part : List Char} {nest inner : Nest} (ends : EndsIn before nest)
    (begins : before = [] → unmarked part = part)
    (reads : ∀ data, ∃ found data',
      Cursor.Reads ⟨.content data, nest⟩ part found ⟨.content data', inner⟩) :
    EndsIn (before ++ part) inner := by
  obtain ⟨found, data, front⟩ := ends
  obtain ⟨later, data', behind⟩ := reads data
  refine ⟨found ++ later, data', ?_⟩
  rw [unmarked_append begins]
  exact front.append behind

/-! ## Character data in front -/

def heldText (data : List Char) : Forest :=
  match data.dropWhile isXmlBlank with
  | [] => []
  | kept => [.text kept.reverse]

theorem step_markup (data : List Char) (nest : Nest) :
    Cursor.step ⟨.content data, nest⟩ '<' =
      .ok (⟨.markup, nest⟩, Forest.events (heldText data)) := by
  have place : Place.step (.content data) '<' = .ok (.markup, textToken data) := rfl
  simp only [Cursor.step, place, textToken, heldText]
  cases data.dropWhile isXmlBlank <;> rfl

theorem step_reference (data : List Char) (nest : Nest) :
    Cursor.step ⟨.content data, nest⟩ '&' =
      .ok (⟨.reference, nest⟩, Forest.events (heldText data)) := by
  have place : Place.step (.content data) '&' = .ok (.reference, textToken data) := rfl
  simp only [Cursor.step, place, textToken, heldText]
  cases data.dropWhile isXmlBlank <;> rfl

theorem step_content (data : List Char) (nest : Nest) {c : Char} (markup : c ≠ '<')
    (reference : c ≠ '&') :
    ∃ data', Cursor.step ⟨.content data, nest⟩ c = .ok (⟨.content data', nest⟩, []) := by
  by_cases leading : (data.isEmpty && isXmlBlank c) = true
  · exact ⟨[], by simp [Cursor.step, Place.step, markup, reference, leading]⟩
  · exact ⟨c :: data, by simp [Cursor.step, Place.step, markup, reference, leading]⟩

theorem heldText_eq (data : List Char) : ∃ texts : List (List Char),
    heldText data = texts.map .text := by
  unfold heldText
  split
  · exact ⟨[], rfl⟩
  · exact ⟨[_], rfl⟩

/-- A text that does not go on with character data. -/
def Breaks : List Char → Prop
  | [] => True
  | c :: _ => c = '<' ∨ c = '&'

theorem remaining_held (nest : Nest) {rest : List Char} (breaks : Breaks rest) :
    ∃ behind fault, ∀ data, Cursor.remaining ⟨.content data, nest⟩ rest =
      (Forest.events (heldText data) ++ behind, fault) := by
  cases rest with
  | nil =>
    refine ⟨[], none, fun data => ?_⟩
    simp only [Cursor.remaining, scanFrom, Place.finish, textToken, heldText]
    cases data.dropWhile isXmlBlank <;> rfl
  | cons c rest =>
    rcases breaks with rfl | rfl
    · exact ⟨_, _, fun data => remaining_of_step (step_markup data nest) rest⟩
    · exact ⟨_, _, fun data => remaining_of_step (step_reference data nest) rest⟩

/-- Up to the texts that come next, the rest of a text makes the same of all character data that may
stand in front of it. -/
theorem remaining_content (nest : Nest) (rest : List Char) : ∃ behind fault, ∀ data,
    ∃ texts : List (List Char), Cursor.remaining ⟨.content data, nest⟩ rest =
      (Forest.events (texts.map .text) ++ behind, fault) := by
  have held {rest : List Char} (breaks : Breaks rest) : ∃ behind fault, ∀ data,
      ∃ texts : List (List Char), Cursor.remaining ⟨.content data, nest⟩ rest =
        (Forest.events (texts.map .text) ++ behind, fault) := by
    obtain ⟨behind, fault, made⟩ := remaining_held nest breaks
    refine ⟨behind, fault, fun data => ?_⟩
    obtain ⟨texts, held⟩ := heldText_eq data
    exact ⟨texts, held ▸ made data⟩
  induction rest with
  | nil => exact held trivial
  | cons c rest ih =>
    by_cases markup : c = '<'
    · exact held (.inl markup)
    by_cases reference : c = '&'
    · exact held (.inr reference)
    · obtain ⟨behind, fault, made⟩ := ih
      refine ⟨behind, fault, fun data => ?_⟩
      obtain ⟨data', step⟩ := step_content data nest markup reference
      rw [remaining_of_step step, List.nil_append]
      exact made data'

/-! ## Runs of character data -/

def IsRun (run : List Char) : Prop := ∀ c ∈ run, c ≠ '<' ∧ c ≠ '&'

instance (run : List Char) : Decidable (IsRun run) :=
  decidable_of_iff (run.all (fun c => c != '<' && c != '&') = true) (by simp [IsRun])

/-- The place behind a run of character data. Blanks in front of it are not held. -/
def Place.behind (run : List Char) : Place := .content (trimStart isXmlBlank run).reverse

theorem trimStart_concat (run : List Char) (c : Char) :
    trimStart isXmlBlank (run ++ [c]) =
      if (trimStart isXmlBlank run).isEmpty && isXmlBlank c then []
      else trimStart isXmlBlank run ++ [c] := by
  induction run with
  | nil =>
    cases blank : isXmlBlank c <;> simp [trimStart, blank]
  | cons d run ih =>
    cases blank : isXmlBlank d with
    | true => simpa [trimStart, blank] using ih
    | false => simp [trimStart, blank]

theorem step_behind (run : List Char) (nest : Nest) {c : Char} (markup : c ≠ '<')
    (reference : c ≠ '&') : Cursor.step ⟨.behind run, nest⟩ c =
      .ok (⟨.behind (run ++ [c]), nest⟩, []) := by
  rw [Place.behind, Place.behind, trimStart_concat]
  by_cases leading : ((trimStart isXmlBlank run).isEmpty && isXmlBlank c) = true
  · simp [Cursor.step, Place.step, markup, reference, leading]
  · simp [Cursor.step, Place.step, markup, reference, leading]

theorem reads_run (front : List Char) {run : List Char} (plain : IsRun run) (nest : Nest) :
    Cursor.Reads ⟨.behind front, nest⟩ run [] ⟨.behind (front ++ run), nest⟩ := by
  induction run generalizing front with
  | nil =>
    rw [List.append_nil]
    exact .nil _
  | cons c run ih =>
    obtain ⟨markup, reference⟩ := plain c List.mem_cons_self
    have rest := ih (front ++ [c]) fun d member => plain d (List.mem_cons_of_mem c member)
    rw [List.append_assoc] at rest
    exact rest.skip (step_behind front nest markup reference)

theorem remaining_behind (front : List Char) {run : List Char} (plain : IsRun run) (nest : Nest)
    (rest : List Char) : Cursor.remaining ⟨.behind front, nest⟩ (run ++ rest) =
      Cursor.remaining ⟨.behind (front ++ run), nest⟩ rest := by
  rw [(reads_run front plain nest).remaining, List.nil_append]

theorem content_of_step {place : Place} {c : Char} {data : List Char} {token : Option Token}
    (step : place.step c = .ok (.content data, token)) :
    (∃ held, place = .content held ∧ c ≠ '<' ∧ c ≠ '&' ∧ token = none) ∨ data = [] := by
  cases place with
  | content held =>
    by_cases markup : c = '<'
    · simp [Place.step, markup] at step
    by_cases reference : c = '&'
    · simp [Place.step, reference] at step
    · refine .inl ⟨held, rfl, markup, reference, ?_⟩
      simp only [Place.step, markup, reference, if_false] at step
      split at step
      · cases step
        rfl
      · cases step
        rfl
  | _ =>
    right
    simp only [Place.step, Place.ofKeyword] at step
    repeat' split at step
    all_goals cases step
    all_goals rfl

theorem run_of_step {here : Cursor} {c : Char} {data : List Char} {nest : Nest}
    {found : List Event} (step : here.step c = .ok (⟨.content data, nest⟩, found)) :
    (∃ held, here = ⟨.content held, nest⟩ ∧ c ≠ '<' ∧ c ≠ '&' ∧ found = []) ∨ data = [] := by
  obtain ⟨place, outer⟩ := here
  simp only [Cursor.step] at step
  split at step
  · cases step
  · rename_i placed
    cases step
    rcases content_of_step placed with ⟨held, rfl, markup, reference, -⟩ | rfl
    · exact .inl ⟨held, rfl, markup, reference, rfl⟩
    · exact .inr rfl
  · rename_i placed
    split at step
    · cases step
    · cases step
      rcases content_of_step placed with ⟨held, rfl, _, _, none⟩ | rfl
      · cases none
      · exact .inr rfl

/-- A text that ends in character data ends with a run of it, right behind markup or behind the
character data that it started in. -/
theorem reads_split {here : Cursor} {part : List Char} {found : List Event} {data : List Char}
    {nest : Nest} (reads : here.Reads part found ⟨.content data, nest⟩) :
    ∃ front run, part = front ++ run ∧ IsRun run ∧ (here.Reads front found ⟨.content [], nest⟩ ∨
      front = [] ∧ found = [] ∧ ∃ held, here = ⟨.content held, nest⟩) := by
  induction part generalizing here found with
  | nil =>
    cases reads
    exact ⟨[], [], rfl, nofun, .inr ⟨rfl, rfl, data, rfl⟩⟩
  | cons c part ih =>
    obtain ⟨next, first, later, step, rest, rfl⟩ := reads.exists_of_cons
    obtain ⟨front, run, rfl, plain, split⟩ := ih rest
    rcases split with behind | ⟨rfl, rfl, held, rfl⟩
    · exact ⟨c :: front, run, rfl, plain, .inl (behind.cons step)⟩
    · rcases run_of_step step with ⟨held, rfl, markup, reference, rfl⟩ | rfl
      · have plain : IsRun (c :: run) := List.forall_mem_cons.mpr ⟨⟨markup, reference⟩, plain⟩
        exact ⟨[], c :: run, rfl, plain, .inr ⟨rfl, rfl, held, rfl⟩⟩
      · exact ⟨[c], run, rfl, plain, .inl (Cursor.Reads.cons step (.nil _))⟩

/-- A text ends right behind markup, or is empty. -/
def EndsAt (text : List Char) (nest : Nest) : Prop :=
  ∃ found, Cursor.start.Reads (unmarked text) found ⟨.content [], nest⟩

theorem EndsAt.endsIn {text : List Char} {nest : Nest} (ends : EndsAt text nest) :
    EndsIn text nest := by
  obtain ⟨found, reads⟩ := ends
  exact ⟨found, [], reads⟩

theorem EndsIn.split {text : List Char} {nest : Nest} (ends : EndsIn text nest) :
    ∃ front run, text = front ++ run ∧ IsRun run ∧ EndsAt front nest := by
  obtain ⟨found, data, reads⟩ := ends
  obtain ⟨front, run, parts, plain, split⟩ := reads_split reads
  have behind : Cursor.start.Reads front found ⟨.content [], nest⟩ := by
    rcases split with behind | ⟨rfl, rfl, held, same⟩
    · exact behind
    · cases same
      exact .nil _
  cases text with
  | nil =>
    obtain ⟨rfl, rfl⟩ := List.append_eq_nil_iff.mp parts.symm
    exact ⟨[], [], rfl, plain, found, behind⟩
  | cons c text =>
    by_cases mark : c = '\ufeff'
    · subst mark
      exact ⟨'\ufeff' :: front, run, congrArg (List.cons _) parts, plain, found, behind⟩
    · have same : unmarked (c :: text) = c :: text := by simp [unmarked, mark]
      have kept : unmarked front = front := by
        cases front with
        | nil => rfl
        | cons d front =>
          obtain rfl : c = d := (List.cons.inj (same.symm.trans parts)).1
          simp [unmarked, mark]
      exact ⟨front, run, same.symm.trans parts, plain, found, kept.symm ▸ behind⟩

def runText (run : List Char) : Forest :=
  match trim isXmlBlank run with
  | [] => []
  | kept => [.text kept]

theorem heldText_behind (run : List Char) :
    heldText (trimStart isXmlBlank run).reverse = runText run := by
  unfold heldText runText trim trimEnd
  cases (trimStart isXmlBlank run).reverse.dropWhile isXmlBlank with
  | nil => rfl
  | cons c kept =>
    cases reversed : (c :: kept).reverse with
    | nil => exact absurd (List.reverse_eq_nil_iff.mp reversed) (List.cons_ne_nil c kept)
    | cons d rest => exact congrArg (fun kept => [Node.text kept]) reversed

/-- Behind a run of character data in one piece there is one text, and then what would be there
without it. -/
theorem remaining_run (nest : Nest) {rest : List Char} (breaks : Breaks rest) :
    ∃ behind fault, ∀ front run, IsRun run → Cursor.remaining ⟨.behind front, nest⟩ (run ++ rest) =
      (Forest.events (runText (front ++ run)) ++ behind, fault) := by
  obtain ⟨behind, fault, made⟩ := remaining_held nest breaks
  refine ⟨behind, fault, fun front run plain => ?_⟩
  rw [remaining_behind front plain, Place.behind, made, heldText_behind]

end Bindery.Xml
