import Bindery.Proofs.Xml.Cut

/-! Documents as trees. The events of a text nest into elements, each with what stands between its
tags; an element that the text leaves open ends with the text. Nothing is said of where the elements
of a tree stand beyond that, and a text may well hold several of them side by side. -/
namespace Bindery.Xml

/-- Character data, or an element with its space, its local name, its tag and what it holds. -/
inductive Node where
  | text (content : List Char)
  | element (space : Option String) (label : String) (tag : Tag) (inside : List Node)

abbrev Forest := List Node

mutual

def Node.events : Node → List Event
  | .text content => [.text content]
  | .element space label tag inside =>
    .start space label tag :: (Forest.events inside ++ [.stop])

def Forest.events : List Node → List Event
  | [] => []
  | node :: rest => node.events ++ Forest.events rest

end

/-- What events make, level by level: the nodes on the level where they begin, and outwards from
there the nodes behind each element that they end without having begun it. -/
def levels : List Event → Forest × List Forest
  | [] => ([], [])
  | .text content :: events =>
    let (here, outer) := levels events
    (.text content :: here, outer)
  | .stop :: events =>
    let (here, outer) := levels events
    ([], here :: outer)
  | .start space label tag :: events =>
    match levels events with
    | (inside, []) => ([.element space label tag inside], [])
    | (inside, behind :: outer) => (.element space label tag inside :: behind, outer)

/-- The tree of a text, up to a fault in it. -/
def forest (text : String) : Forest := (levels (events text).1).1

/-! ## A tree and its events -/

@[simp] theorem Forest.events_append (first second : Forest) :
    Forest.events (first ++ second) = Forest.events first ++ Forest.events second := by
  induction first with
  | nil => rfl
  | cons node first ih => rw [List.cons_append, events, events, ih, List.append_assoc]

mutual

theorem levels_node : (node : Node) → (behind : List Event) →
    levels (node.events ++ behind) = (node :: (levels behind).1, (levels behind).2)
  | .text _, _ => rfl
  | .element space label tag inside, behind => by
    have within := levels_forest inside (.stop :: behind)
    rw [Node.events, List.cons_append, List.append_assoc, List.singleton_append, levels, within]
    simp [levels]

theorem levels_forest : (nodes : List Node) → (behind : List Event) →
    levels (Forest.events nodes ++ behind) = (nodes ++ (levels behind).1, (levels behind).2)
  | [], _ => rfl
  | node :: rest, behind => by
    rw [Forest.events, List.append_assoc, levels_node node, levels_forest rest]
    rfl

end

def levelEvents (made : Forest × List Forest) : List Event :=
  Forest.events made.1 ++ made.2.flatMap fun nodes => .stop :: Forest.events nodes

/-- No event is lost: levels have the events that they were made of, and behind these the ends of
elements that were left open. -/
theorem levelEvents_levels {events : List Event} {depth still : Nat}
    (balanced : events.foldlM Event.depthAfter depth = some still) :
    ∃ left, levelEvents (levels events) = events ++ List.replicate left .stop ∧
      (levels events).2.length ≤ depth ∧ still + (levels events).2.length = depth + left := by
  induction events generalizing depth with
  | nil =>
    cases balanced
    exact ⟨0, rfl, Nat.zero_le _, rfl⟩
  | cons event events ih =>
    rw [List.foldlM_cons] at balanced
    obtain ⟨next, step, balanced⟩ := Option.bind_eq_some_iff.mp balanced
    obtain ⟨left, same, within, count⟩ := ih balanced
    cases event with
    | text content =>
      cases step
      refine ⟨left, ?_, within, count⟩
      simpa [levels, levelEvents, Forest.events, Node.events] using same
    | stop =>
      cases depth with
      | zero => cases step
      | succ depth =>
        cases step
        refine ⟨left, ?_, Nat.succ_le_succ within, ?_⟩
        · simpa [levels, levelEvents, Forest.events] using same
        · simp only [levels, List.length_cons]
          omega
    | start space label tag =>
      cases step
      rcases made : levels events with ⟨inside, _ | ⟨behind, outer⟩⟩
      · rw [made] at same count
        refine ⟨left + 1, ?_, ?_, ?_⟩
        · simp only [levels, made, levelEvents, Forest.events, Node.events, List.flatMap_nil,
            List.append_nil] at same ⊢
          rw [same, List.replicate_succ', List.append_assoc]
          rfl
        · simp [levels, made]
        · simp only [levels, made, List.length_nil] at count ⊢
          omega
      · rw [made] at same within count
        refine ⟨left, ?_, ?_, ?_⟩
        · simp only [levels, made, levelEvents, Forest.events, Node.events, List.flatMap_cons]
            at same ⊢
          simpa using same
        · simp only [levels, made, List.length_cons] at within ⊢
          omega
        · simp only [levels, made, List.length_cons] at count ⊢
          omega

/-! ## The tree of a text -/

theorem depthAfter_step {nest behind : Nest} {token : Token} {found : List Event}
    (stepped : nest.step token = .ok (behind, found)) :
    found.foldlM Event.depthAfter nest.length = some behind.length := by
  cases token with
  | text content =>
    cases stepped
    rfl
  | opening tag =>
    cases entered : nest.scope.enter tag with
    | error fault => simp [Nest.step, entered, bind, Except.bind] at stepped
    | ok scope =>
      simp only [Nest.step, entered, bind, Except.bind] at stepped
      cases stepped
      rfl
  | empty tag =>
    cases entered : nest.scope.enter tag with
    | error fault => simp [Nest.step, entered, bind, Except.bind] at stepped
    | ok scope =>
      simp only [Nest.step, entered, bind, Except.bind] at stepped
      cases stepped
      rfl
  | closing name =>
    cases nest with
    | nil => cases stepped
    | cons innermost outer =>
      simp only [Nest.step] at stepped
      split at stepped
      · cases stepped
        rfl
      · cases stepped

/-- The events of tokens end no element that they have not begun and that was not open before. -/
theorem depthAfter_eventsFrom (nest : Nest) (seen : List Event) (fault : Option MarkupFault)
    (tokens : List Token) : ∃ found still,
      (eventsFrom nest seen fault tokens).1 = seen.reverse ++ found ∧
      found.foldlM Event.depthAfter nest.length = some still := by
  induction tokens generalizing nest seen with
  | nil => exact ⟨[], nest.length, (List.append_nil _).symm, rfl⟩
  | cons token tokens ih =>
    rw [eventsFrom]
    cases stepped : nest.step token with
    | error fault => exact ⟨[], nest.length, (List.append_nil _).symm, rfl⟩
    | ok made =>
      obtain ⟨behind, first⟩ := made
      obtain ⟨later, still, same, balanced⟩ := ih behind (first.reverse ++ seen)
      refine ⟨first ++ later, still, ?_, ?_⟩
      · simpa using same
      · rw [List.foldlM_append, depthAfter_step stepped]
        exact balanced

theorem events_forest (text : String) : ∃ left,
    Forest.events (forest text) = (events text).1 ++ List.replicate left .stop := by
  have found : ∃ still, (events text).1.foldlM Event.depthAfter 0 = some still := by
    unfold events
    obtain ⟨tokens, fault⟩ := scan text.toList
    obtain ⟨found, still, same, balanced⟩ := depthAfter_eventsFrom [] [] fault tokens
    refine ⟨still, ?_⟩
    simp only [same]
    exact balanced
  obtain ⟨still, balanced⟩ := found
  obtain ⟨left, same, within, _⟩ := levelEvents_levels balanced
  refine ⟨left, ?_⟩
  rw [levelEvents, List.length_eq_zero_iff.mp (Nat.le_zero.mp within)] at same
  simpa [forest] using same

end Bindery.Xml
