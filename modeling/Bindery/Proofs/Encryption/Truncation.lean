import Bindery.Proofs.Action
import Bindery.Proofs.Encryption.RoundTrip
import Bindery.Proofs.Xml.Cut

/-! Written manifests that break off in front of the end of their root element. The reader does not
ask for that end: it accepts a text that stops behind a record, and it refuses all others. -/
namespace Bindery.Encryption

open Xml

abbrev rootBegun (within : Outline) : Outline :=
  Outline.begun "encryption" Manifest.rootValues within

/-- The outline of a manifest up to the end tag of its root. -/
def Manifest.unclosed (manifest : Manifest) : Outline :=
  rootBegun (manifest.flatMap Record.outline)

def written (outline : Outline) : String := Manifest.declaration ++ "\n" ++ outline.render

/-- Up to the blanks at its end, a text holds the start of the root and the given records, and
nothing else. -/
def StopsBehind (records : Manifest) (text : String) : Prop :=
  trimEnd isXmlBlank text.toList = trimEnd isXmlBlank (written records.unclosed).toList

theorem toList_written (outline : Outline) :
    (written outline).toList =
      Manifest.declaration.toList ++ ['\n'] ++ outline.render.toList := by
  simp [written]

/-! ## What tokens are read as -/

def ReadAs (tokens : List Token) (found : Manifest) : Prop :=
  ∃ events p, eventsFrom [] [] none tokens = (events, none) ∧
    events.foldlM Progress.step {} = .ok p ∧ p.finish = .ok found

theorem eventsFrom_fault (nest : Nest) (seen : List Event) (fault : MarkupFault)
    (tokens : List Token) : (eventsFrom nest seen (some fault) tokens).2 ≠ none := by
  induction tokens generalizing nest seen with
  | nil => exact Option.some_ne_none _
  | cons token tokens ih =>
    rw [eventsFrom]
    cases nest.step token with
    | error fault => exact Option.some_ne_none _
    | ok behind => exact ih _ _

theorem read_eq_ok {text : String} {found : Manifest} :
    Manifest.read text = .ok found ↔
      ∃ tokens, scan text.toList = (tokens, none) ∧ ReadAs tokens found := by
  unfold Manifest.read Xml.events ReadAs
  obtain ⟨tokens, fault⟩ := scan text.toList
  cases fault with
  | some fault =>
    have faulty := eventsFrom_fault [] [] fault tokens
    constructor
    · intro read
      obtain ⟨p, -, read⟩ := ok_of_bind read
      split at read
      · cases read
      · rename_i sound
        exact absurd sound faulty
    · rintro ⟨_, scanned, _⟩
      exact absurd (Prod.mk.inj scanned).2 (Option.some_ne_none _)
  | none =>
    rcases made : eventsFrom [] [] none tokens with ⟨events, fault⟩
    constructor
    · intro read
      refine ⟨tokens, rfl, events, ?_⟩
      rw [made]
      simp only [made] at read
      obtain ⟨p, ran, read⟩ := ok_of_bind read
      split at read
      · cases read
      · exact ⟨p, rfl, ran, read⟩
    · rintro ⟨_, scanned, events', p, sound, ran, ends⟩
      cases scanned
      rw [made] at sound
      cases sound
      simp only [made, bind, Except.bind, ran, ends]

/-! ## The reader in front of the end -/

section Inside

variable {r : Record} {path : List Part} {records : List Record} {p : Progress} {depth : Nat}

theorem inside_of_step {event : Event}
    (balanced : Event.depthAfter path.length event = some depth)
    (ran : Progress.step ⟨.inside r path, records⟩ event = .ok p) :
    ∃ r' path', p = ⟨.inside r' path', records⟩ ∧ path'.length = depth := by
  cases event with
  | start space label tag =>
    simp only [Progress.step] at ran
    obtain ⟨⟨entered, part⟩, _, ran⟩ := ok_of_bind ran
    cases ran
    exact ⟨entered, part :: path, rfl, Option.some.inj balanced⟩
  | stop =>
    cases path with
    | nil => cases balanced
    | cons part path =>
      cases ran
      exact ⟨r, path, rfl, Option.some.inj balanced⟩
  | text content =>
    have same : path.length = depth := Option.some.inj balanced
    have unread {part : Part} {rest : List Part} (other : part ≠ .keySize) :
        Progress.step ⟨.inside r (part :: rest), records⟩ (.text content) =
          .ok ⟨.inside r (part :: rest), records⟩ := by
      cases part <;> first | rfl | exact absurd rfl other
    cases path with
    | nil =>
      cases ran
      exact ⟨r, [], rfl, same⟩
    | cons part rest =>
      by_cases sized : part = .keySize
      · subst sized
        simp only [Progress.step] at ran
        obtain ⟨size, _, ran⟩ := ok_of_bind ran
        cases ran
        exact ⟨_, _, rfl, same⟩
      · rw [unread sized] at ran
        cases ran
        exact ⟨r, _, rfl, same⟩

theorem balanced_texts (texts : List (List Char)) (depth : Nat) :
    (texts.map Event.text).foldlM Event.depthAfter depth = some depth := by
  induction texts with
  | nil => rfl
  | cons content texts ih => exact ih

/-- Events that end no element but their own leave the reader in its record. -/
theorem inside_of_balanced {events : List Event}
    (balanced : events.foldlM Event.depthAfter path.length = some depth)
    (ran : events.foldlM Progress.step ⟨.inside r path, records⟩ = .ok p) :
    ∃ r' path', p = ⟨.inside r' path', records⟩ := by
  induction events generalizing r path with
  | nil =>
    cases ran
    exact ⟨r, path, rfl⟩
  | cons event events ih =>
    rw [List.foldlM_cons] at balanced ran
    obtain ⟨behind, step, balanced⟩ := Option.bind_eq_some_iff.mp balanced
    obtain ⟨_, first, ran⟩ := ok_of_bind ran
    obtain ⟨r', path', rfl, rfl⟩ := inside_of_step step first
    exact ih balanced ran

end Inside

theorem foldlM_front {manifest : Manifest} {front back : Outline} {records : List Record}
    {p : Progress} (cut : manifest.flatMap Record.outline = front ++ back)
    (ran : (front.events rootScope).foldlM Progress.step ⟨.between, records⟩ = .ok p) :
    (∃ found, found <+: manifest ∧ front = found.flatMap Record.outline ∧
        p = ⟨.between, found.reverse ++ records⟩) ∨
      ∃ r path, p.position = .inside r path := by
  induction manifest generalizing front records with
  | nil =>
    obtain ⟨rfl, -⟩ := List.append_eq_nil_iff.mp cut.symm
    cases ran
    exact .inl ⟨[], List.nil_prefix, rfl, rfl⟩
  | cons r manifest ih =>
    rw [List.flatMap_cons] at cut
    have behind {later : Outline} (split : front = r.outline ++ later)
        (cut : manifest.flatMap Record.outline = later ++ back) :
        (∃ found, found <+: r :: manifest ∧ front = found.flatMap Record.outline ∧
            p = ⟨.between, found.reverse ++ records⟩) ∨
          ∃ r path, p.position = .inside r path := by
      rw [split, Outline.events_append, List.foldlM_append, foldlM_record] at ran
      rcases ih cut ran with ⟨found, listed, lines, ends⟩ | inside
      · refine .inl ⟨r :: found, List.cons_prefix_cons.mpr ⟨rfl, listed⟩, ?_, ?_⟩
        · rw [split, lines, List.flatMap_cons]
        · simpa using ends
      · exact .inr inside
    rcases List.append_eq_append_iff.mp cut with ⟨later, split, cut⟩ | ⟨more, split, ends⟩
    · exact behind split cut
    rcases Outline.cut_nest (r.outline_eq.symm.trans split) with
      rfl | rfl | ⟨within, beyond, inner, rfl, -⟩
    · cases ran
      exact .inl ⟨[], List.nil_prefix, rfl, rfl⟩
    · have cut : manifest.flatMap Record.outline = [] ++ back := ends.symm
      exact behind (by rw [split, List.append_nil, List.append_nil]) cut
    · right
      rw [Outline.events_begun, List.foldlM_cons, step_record] at ran
      have whole := inner_inner r
      rw [inner] at whole
      obtain ⟨depth, balanced⟩ := whole.balanced_front rootScope ([] : List Part).length
      obtain ⟨r', path, rfl⟩ := inside_of_balanced balanced ran
      exact ⟨r', path, rfl⟩

theorem not_readAs_nil (found : Manifest) : ¬ ReadAs [] found := by
  rintro ⟨events, p, made, ran, ends⟩
  cases made
  cases ran
  cases ends

theorem step_root :
    Progress.step {} (rootScope.start (tagOf "encryption" Manifest.rootValues)) =
      .ok ⟨.between, []⟩ := by
  simp [Scope.start, tagOf, resolve_root, Progress.step]

theorem readAs_begun {outline : Outline} (keeps : outline.Keeps rootScope)
    (texts : List (List Char)) (found : Manifest) :
    ReadAs ((rootBegun outline).tokens ++ texts.map .text) found ↔
      ∃ p, (outline.events rootScope ++ texts.map Event.text).foldlM Progress.step
        ⟨.between, []⟩ = .ok p ∧ p.finish = .ok found := by
  obtain ⟨nest, -, made⟩ := keeps [("encryption", rootScope)] rfl
  have start := nest_step_opening (show Nest.scope [] = [] from rfl) enter_root
  have events : eventsFrom [] [] none ((rootBegun outline).tokens ++ texts.map .text) =
      (rootScope.start (tagOf "encryption" Manifest.rootValues) ::
        (outline.events rootScope ++ texts.map .text), none) := by
    have whole := made [rootScope.start (tagOf "encryption" Manifest.rootValues)] none
      (texts.map .text)
    rw [Outline.tokens_begun, List.cons_append, eventsFrom, start]
    exact whole.trans (by simp [eventsFrom_texts])
  unfold ReadAs
  constructor
  · rintro ⟨_, p, made, ran, ends⟩
    rw [events] at made
    cases made
    rw [List.foldlM_cons, step_root] at ran
    exact ⟨p, ran, ends⟩
  · rintro ⟨p, ran, ends⟩
    refine ⟨_, p, events, ?_, ends⟩
    rw [List.foldlM_cons, step_root]
    exact ran

theorem readAs_unclosed (records : Manifest) : ReadAs records.unclosed.tokens records := by
  have read := readAs_begun ((inner_records records).keeps rootScope) [] records
  simp only [List.map_nil, List.append_nil] at read
  apply read.mpr
  refine ⟨_, foldlM_records records [], ?_⟩
  simp [Progress.finish]

/-- Whole lines are read as records only where a record ends. -/
theorem eq_of_readAs {manifest found : Manifest} {within beyond : Outline}
    (cut : manifest.flatMap Record.outline = within ++ beyond)
    (accepted : ReadAs (rootBegun within).tokens found) :
    found <+: manifest ∧ within = found.flatMap Record.outline := by
  have keeps := (inner_records manifest).keeps_front rootScope cut
  have read := readAs_begun keeps [] found
  simp only [List.map_nil, List.append_nil] at read
  obtain ⟨p, ran, ends⟩ := read.mp accepted
  rcases foldlM_front cut ran with ⟨records, listed, lines, rfl⟩ | ⟨r, path, inside⟩
  · obtain rfl : records = found := by simpa [Progress.finish] using ends
    exact ⟨listed, lines⟩
  · simp [Progress.finish, inside] at ends

theorem head_records {manifest : Manifest} {line : Line} {beyond : Outline}
    (lines : manifest.flatMap Record.outline = line :: beyond) :
    ∃ r : Record, line.piece = .opening "enc:EncryptedData" r.values := by
  cases manifest with
  | nil => cases lines
  | cons r manifest =>
    rw [List.flatMap_cons, r.outline_eq] at lines
    obtain ⟨rfl, -⟩ := List.cons.inj lines
    exact ⟨r, rfl⟩

/-- A short text stands in a record, so that nothing is read where it breaks off. -/
theorem not_readAs_text {manifest found : Manifest} {within beyond : Outline} {line : Line}
    {name content : String} (texts : List (List Char))
    (cut : manifest.flatMap Record.outline = within ++ line :: beyond)
    (held : line.piece = .text name content) :
    ¬ ReadAs ((rootBegun within).tokens ++ .opening (tagOf name []) :: texts.map .text) found := by
  intro accepted
  have lines := (inner_records manifest).keeps_front rootScope cut
  have keeps : Outline.Keeps rootScope (within ++ Outline.begun name [] []) :=
    Outline.keeps_append lines (Outline.keeps_begun Values.inner_nil (Outline.keeps_nil _))
  have tokens : (rootBegun within).tokens ++ .opening (tagOf name []) :: texts.map .text =
      (rootBegun (within ++ Outline.begun name [] [])).tokens ++ texts.map .text := by
    rw [Outline.tokens_begun, Outline.tokens_begun, Outline.tokens_append, Outline.tokens_begun]
    simp [Outline.tokens]
  rw [tokens] at accepted
  obtain ⟨p, ran, ends⟩ := (readAs_begun keeps texts found).mp accepted
  rw [Outline.events_append, List.append_assoc, List.foldlM_append] at ran
  obtain ⟨q, before, ran⟩ := ok_of_bind ran
  rcases foldlM_front cut before with ⟨records, ⟨later, rfl⟩, lines, -⟩ | ⟨r, path, inside⟩
  · rw [List.flatMap_append, lines] at cut
    obtain ⟨r, piece⟩ := head_records (List.append_cancel_left cut)
    rw [held] at piece
    cases piece
  · obtain ⟨position, records⟩ := q
    obtain rfl : position = .inside r path := inside
    have balanced : (Outline.events rootScope (Outline.begun name [] []) ++
        texts.map Event.text).foldlM Event.depthAfter path.length = some (path.length + 1) := by
      rw [Outline.events_begun, List.cons_append, List.foldlM_cons]
      exact balanced_texts texts _
    obtain ⟨r', path', rfl⟩ := inside_of_balanced balanced ran
    simp [Progress.finish] at ends

/-! ## Where a written manifest breaks off -/

def declarationInside : List Char := declarationHead.toList.tail ++ ['?']

theorem declaration_eq : Manifest.declaration.toList = '<' :: declarationInside ++ ['>'] := by
  decide

theorem bare_of_declaration {front : List Char} {tokens : List Token}
    (cut : front <+: Manifest.declaration.toList ++ ['\n'])
    (sound : scan front = (tokens, none)) : tokens = [] := by
  have form : Manifest.declaration.toList ++ ['\n'] =
      '<' :: declarationInside ++ '>' :: ['\n'] := by
    rw [declaration_eq, List.append_assoc]
    rfl
  rw [form] at cut
  rcases prefix_append_cons cut with begun | ⟨back, rfl, blank⟩
  · cases front with
    | nil =>
      cases sound
      rfl
    | cons c front =>
      obtain ⟨rfl, shorter⟩ := List.cons_prefix_cons.mp begun
      have inside : IsInside declarationInside := ⟨by decide, by decide⟩
      have fault := inside.fault shorter [] []
      rw [show scanFrom (.content []) [] ('<' :: front) = (tokens, none) from sound] at fault
      exact absurd rfl fault
  · have whole : '<' :: declarationInside ++ '>' :: back =
        Manifest.declaration.toList ++ back := by
      rw [declaration_eq, List.append_assoc]
      rfl
    rw [whole, scan_declaration,
      scanFrom_blank_end [] back fun c member => isXmlBlank_lineBreak c (blank.subset member)]
      at sound
    cases sound
    rfl

theorem outline_cut {manifest : Manifest} {front back : Outline}
    (cut : Manifest.outline manifest = front ++ back) :
    front = [] ∨ back = [] ∨ ∃ within beyond : Outline,
      manifest.flatMap Record.outline = within ++ beyond ∧ front = rootBegun within ∧
      back = beyond.deeper ++ [⟨0, .closing "encryption"⟩] := by
  cases manifest with
  | nil =>
    rcases List.singleton_eq_append_iff.mp cut with ⟨none, -⟩ | ⟨-, none⟩
    · exact .inl none
    · exact .inr (.inl none)
  | cons r manifest =>
    rw [outline_cons] at cut
    exact Outline.cut_nest cut

/-- How far a written manifest goes that breaks off in front of the end of its root, and the tokens
that are found in it. -/
inductive Front (manifest : Manifest) (front : List Char) : List Token → Prop where
  | bare : Front manifest front []
  | lines {within beyond : Outline} (cut : manifest.flatMap Record.outline = within ++ beyond)
      (reaches : trimEnd isXmlBlank front =
        trimEnd isXmlBlank (written (rootBegun within)).toList) :
      Front manifest front (rootBegun within).tokens
  | text {within beyond : Outline} {line : Line} {name content : String}
      (texts : List (List Char))
      (cut : manifest.flatMap Record.outline = within ++ line :: beyond)
      (held : line.piece = .text name content) :
      Front manifest front
        ((rootBegun within).tokens ++ .opening (tagOf name []) :: texts.map .text)

theorem line_cut {manifest : Manifest} {done later : Outline} {line : Line} {name content : String}
    (cut : Manifest.outline manifest = done ++ line :: later)
    (held : line.piece = .text name content) :
    ∃ (within beyond : Outline) (l : Line),
      manifest.flatMap Record.outline = within ++ l :: beyond ∧
      l.piece = .text name content ∧ done = rootBegun within := by
  rcases outline_cut cut with rfl | none | ⟨within, beyond, lines, rfl, ends⟩
  · cases manifest with
    | nil =>
      obtain ⟨rfl, -⟩ := List.cons.inj cut
      cases held
    | cons r manifest =>
      obtain ⟨rfl, -⟩ := List.cons.inj cut
      cases held
  · cases none
  · cases beyond with
    | nil =>
      obtain ⟨rfl, -⟩ := List.cons.inj ends
      cases held
    | cons l beyond =>
      obtain ⟨rfl, -⟩ := List.cons.inj ends
      exact ⟨within, beyond, l, lines, held, rfl⟩

theorem scanFrom_line_end (seen : List Token) (line : Line) (plain : line.piece.Plain) :
    scanFrom (.content []) seen (line.indent ++ line.piece.render.toList) =
      ((line.piece.tokens.reverse ++ seen).reverse, none) := by
  have piece := scanFrom_piece seen line.piece [] plain
  rw [List.append_nil] at piece
  rw [scanFrom_blanks seen _ _ line.isXmlBlank_indent, piece]
  rfl

theorem front_of_line {manifest : Manifest} {done later : Outline} {line : Line}
    (split : Manifest.outline manifest = done ++ line :: later) (more : later ≠ []) :
    Front manifest (Manifest.declaration.toList ++ ['\n'] ++
        (done.render.toList ++ (line.indent ++ line.piece.render.toList)))
      (Outline.tokens (done ++ [line])) := by
  have whole : Manifest.outline manifest = (done ++ [line]) ++ later := by
    rw [split, List.append_assoc]
    rfl
  rcases outline_cut whole with none | none | ⟨within, beyond, lines, begun, -⟩
  · cases List.append_eq_nil_iff.mp none
    contradiction
  · exact absurd none more
  · rw [begun]
    apply Front.lines lines
    rw [← begun, toList_written, ← trimEnd_append _ _ isXmlBlank_lineBreak]
    simp [Outline.toList_render, line.toList_render]

theorem front_of_scan {manifest : Manifest} {front rest : List Char} {tokens : List Token}
    (whole : manifest.render.toList = front ++ rest) (short : 2 ≤ rest.length)
    (sound : scan front = (tokens, none)) : Front manifest front tokens := by
  have form : manifest.render.toList =
      (Manifest.declaration.toList ++ ['\n']) ++ (Manifest.outline manifest).render.toList := by
    simp [Manifest.render]
  rw [form] at whole
  rcases List.append_eq_append_iff.mp whole with ⟨lines, rfl, cut⟩ | ⟨more, cut, -⟩
  · have more : rest ≠ [] := by
      rintro rfl
      cases short
    obtain ⟨done, line, later, part, tail, split, rfl, ends, left, rfl⟩ :=
      Outline.exists_line cut more
    have plain := plain_outline manifest
    have plainDone : done.Plain := fun l member =>
      plain l (split ▸ List.mem_append_left _ member)
    have plainLine : line.piece.Plain :=
      plain line (split ▸ List.mem_append_right _ List.mem_cons_self)
    rw [scan_declaration_line, scanFrom_lines [] done part plainDone, List.append_nil] at sound
    cases Line.breaks plainLine ends left with
    | before blank =>
      rw [scanFrom_blank_end _ _ blank, List.reverse_reverse] at sound
      cases sound
      rcases outline_cut split with rfl | none | ⟨within, beyond, lines, rfl, -⟩
      · exact .bare
      · cases none
      · apply Front.lines lines
        rw [← List.append_assoc, trimEnd_append _ _ blank, toList_written]
    | inTag fault =>
      refine absurd ?_ (fault done.tokens.reverse)
      rw [sound]
    | inText name content texts held found =>
      rw [found, List.reverse_reverse] at sound
      cases sound
      obtain ⟨within, beyond, l, lines, held, rfl⟩ := line_cut split held
      exact .text texts lines held
    | behind reaches =>
      have ended : tail = ['\n'] := by
        rw [line.toList_render, ← reaches] at ends
        exact (List.append_cancel_left ends).symm
      have more : later ≠ [] := by
        rintro rfl
        rw [ended] at short
        simp [Outline.toList_render] at short
      subst reaches
      rw [scanFrom_line_end _ line plainLine] at sound
      cases sound
      have tokens : Outline.tokens (done ++ [line]) =
          (line.piece.tokens.reverse ++ done.tokens.reverse).reverse := by
        simp [Outline.tokens]
      rw [← tokens]
      exact front_of_line split more
  · obtain rfl := bare_of_declaration ⟨more, cut.symm⟩ sound
    exact .bare

theorem read_of_stopsBehind {records : Manifest} {text : String}
    (reaches : StopsBehind records text) : Manifest.read text = .ok records := by
  apply read_eq_ok.mpr
  refine ⟨records.unclosed.tokens, ?_, readAs_unclosed records⟩
  obtain ⟨init, last, split⟩ :
      ∃ (init : Outline) (last : Line), records.unclosed = init ++ [last] :=
    ⟨_, _, (List.dropLast_concat_getLast (List.cons_ne_nil _ _)).symm⟩
  have plain : Outline.Plain (init ++ [last]) := by
    intro line member
    have named : PlainName "encryption" := by decide
    have closed := Outline.plain_nest named plain_rootValues (inner_records records).plain
    rw [← split] at member
    exact closed line (List.mem_append_left _ member)
  -- Without its line break the last line ends with an angle bracket, which no trimming drops.
  obtain ⟨cs, piece⟩ := last.piece.render_concat
  have solid : isXmlBlank '>' = false := by decide
  have form : (written records.unclosed).toList = (Manifest.declaration.toList ++ ['\n'] ++
      (init.render.toList ++ (last.indent ++ cs)) ++ ['>']) ++ ['\n'] := by
    rw [split, toList_written]
    simp [Outline.toList_render, last.toList_render, piece]
  rw [StopsBehind, form, trimEnd_append _ _ isXmlBlank_lineBreak,
    trimEnd_concat _ _ solid] at reaches
  obtain ⟨blanks, text', blank⟩ := eq_trimEnd_append isXmlBlank text.toList
  have layout : text.toList = Manifest.declaration.toList ++ ['\n'] ++
      (init.render.toList ++ (last.indent ++ (last.piece.render.toList ++ blanks))) := by
    rw [text', reaches, piece]
    simp
  have plainInit : init.Plain := fun l member => plain l (List.mem_append_left _ member)
  have plainLast := plain last (List.mem_append_right _ List.mem_cons_self)
  rw [layout, scan_declaration_line, scanFrom_lines [] init _ plainInit,
    scanFrom_blanks _ _ _ last.isXmlBlank_indent, scanFrom_piece _ _ _ plainLast,
    scanFrom_blank_end _ _ blank, split]
  simp [Outline.tokens]

def writtenEnd (later : Manifest) : String :=
  Outline.render (Outline.deeper (later.flatMap Record.outline) ++ [⟨0, .closing "encryption"⟩])

theorem render_append (records later : Manifest) (listed : records ++ later ≠ []) :
    Manifest.render (records ++ later) = written records.unclosed ++ writtenEnd later := by
  have lines : Manifest.outline (records ++ later) = records.unclosed ++
      (Outline.deeper (later.flatMap Record.outline) ++ [⟨0, .closing "encryption"⟩]) := by
    have more : (records ++ later).isEmpty = false := by simpa using listed
    rw [Manifest.outline, more, if_neg Bool.false_ne_true, List.flatMap_append,
      Outline.nest_eq_begun]
    simp [Manifest.unclosed, Outline.begun, Outline.deeper]
  have whole : Manifest.render (records ++ later) = written (Manifest.outline (records ++ later)) :=
    rfl
  apply String.toList_inj.mp
  rw [whole, lines, String.toList_append, toList_written, toList_written, writtenEnd,
    Outline.toList_render, Outline.toList_render, Outline.toList_render, List.flatMap_append,
    List.append_assoc, List.append_assoc, List.append_assoc]

theorem length_writtenEnd (later : Manifest) : 2 ≤ (writtenEnd later).length := by
  rw [← String.length_toList, writtenEnd, Outline.toList_render, List.flatMap_append,
    List.length_append]
  simp [Line.toList_render, Piece.render]
  omega

/-- What is read of a written manifest that breaks off in front of the end of its root: the records
in front of the cut if nothing but blanks stands between the last of them and the cut, and otherwise
nothing. -/
theorem read_truncated_iff (manifest found : Manifest) (front rest : String)
    (whole : manifest.render = front ++ rest) (short : 2 ≤ rest.length) :
    Manifest.read front = .ok found ↔ found <+: manifest ∧ StopsBehind found front := by
  constructor
  · intro read
    obtain ⟨tokens, sound, accepted⟩ := read_eq_ok.mp read
    have letters : manifest.render.toList = front.toList ++ rest.toList := by
      rw [whole, String.toList_append]
    cases front_of_scan letters short sound with
    | bare => exact absurd accepted (not_readAs_nil found)
    | lines cut reaches =>
      obtain ⟨listed, rfl⟩ := eq_of_readAs cut accepted
      exact ⟨listed, reaches⟩
    | text texts cut held => exact absurd accepted (not_readAs_text texts cut held)
  · rintro ⟨-, reaches⟩
    exact read_of_stopsBehind reaches

/-! ## Two pages, of which one is left -/

def onePage : Manifest := [.of "a.xhtml" "AES-CBC"]

def nextPage : Manifest := [.of "b.xhtml" "AES-CBC"]

theorem read_truncated_iff_onePage : Manifest.read (written onePage.unclosed) = .ok onePage := by
  have cut := read_truncated_iff (onePage ++ nextPage) onePage (written onePage.unclosed)
    (writtenEnd nextPage) (render_append _ _ (List.cons_ne_nil _ _)) (length_writtenEnd _)
  exact cut.mpr ⟨List.prefix_append _ _, rfl⟩

/-- A manifest of two records that breaks off behind the first is accepted, with one record. -/
theorem nextPage_lost :
    Manifest.render (onePage ++ nextPage) = written onePage.unclosed ++ writtenEnd nextPage ∧
      2 ≤ (writtenEnd nextPage).length ∧ onePage.length < (onePage ++ nextPage).length ∧
      Manifest.read (written onePage.unclosed) = .ok onePage := by
  refine ⟨render_append _ _ (List.cons_ne_nil _ _), length_writtenEnd _, by decide, ?_⟩
  exact read_of_stopsBehind rfl

end Bindery.Encryption
