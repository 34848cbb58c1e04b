import Bindery.Proofs.Xml.Grammar

/-! The content of an element in runs of character data. References and markup stand between the
runs, and whatever they are, no run reaches over them. -/
namespace Bindery.Xml

inductive Interruption : List Char → Prop where
  | reference {name : List Char} :
      (∀ c ∈ name, c ≠ ';' ∧ c ≠ '&' ∧ c ≠ '<') → Interruption ('&' :: (name ++ [';']))
  | remark {cs : List Char} : Remark cs → Interruption cs
  | cdata {inside : List Char} : ¬ "]]>".toList <:+: inside →
      Interruption ("<![CDATA[".toList ++ (inside ++ "]]>".toList))
  | element {t : StartTag} {cs : List Char} : t.Element cs → Interruption cs

/-- Content and the runs of character data in it, one more than it has interruptions. -/
inductive Runs : List Char → List (List Char) → Prop where
  | last {run : List Char} : IsRun run → Runs run [run]
  | cons {run mark rest : List Char} {runs : List (List Char)} : IsRun run → Interruption mark →
      Runs rest runs → Runs (run ++ (mark ++ rest)) (run :: runs)

theorem isRun_nil : IsRun [] := nofun

theorem isRun_append {first second : List Char} (one : IsRun first) (other : IsRun second) :
    IsRun (first ++ second) := List.forall_mem_append.mpr ⟨one, other⟩

theorem Interruption.runs {mark : List Char} (interrupts : Interruption mark) :
    Runs mark [[], []] := by
  have parted := Runs.cons isRun_nil interrupts (.last isRun_nil)
  rwa [List.nil_append, List.append_nil] at parted

theorem Runs.behind_run {run content : List Char} {runs : List (List Char)} (plain : IsRun run)
    (parted : Runs content runs) : ∃ runs', Runs (run ++ content) runs' := by
  cases parted with
  | last plain' => exact ⟨_, .last (isRun_append plain plain')⟩
  | cons plain' interrupts rest =>
    rw [← List.append_assoc]
    exact ⟨_, .cons (isRun_append plain plain') interrupts rest⟩

theorem Runs.append {first second : List Char} {runs later : List (List Char)}
    (one : Runs first runs) (other : Runs second later) :
    ∃ runs', Runs (first ++ second) runs' := by
  induction one with
  | last plain => exact other.behind_run plain
  | cons plain interrupts _ ih =>
    obtain ⟨runs', rest⟩ := ih
    rw [List.append_assoc, List.append_assoc]
    exact ⟨_, .cons plain interrupts rest⟩

theorem Content.exists_runs {cs : List Char} (content : Content cs) : ∃ runs, Runs cs runs := by
  induction content with
  | nil => exact ⟨_, .last isRun_nil⟩
  | append _ _ one other =>
    obtain ⟨runs, one⟩ := one
    obtain ⟨later, other⟩ := other
    exact one.append other
  | char markup reference =>
    exact ⟨_, .last (List.forall_mem_singleton.mpr ⟨markup, reference⟩)⟩
  | reference within => exact ⟨_, Interruption.runs (.reference within)⟩
  | comment within => exact ⟨_, Interruption.runs (.remark (.comment within))⟩
  | instruction target within =>
    exact ⟨_, Interruption.runs (.remark (.instruction target within))⟩
  | cdata within => exact ⟨_, Interruption.runs (.cdata within)⟩
  | empty formed => exact ⟨_, Interruption.runs (.element (.empty formed))⟩
  | element formed inside blank =>
    exact ⟨_, Interruption.runs (.element (.filled formed inside blank))⟩

theorem IsRun.content {run : List Char} (plain : IsRun run) : Content run := by
  induction run with
  | nil => exact .nil
  | cons c run ih =>
    obtain ⟨⟨markup, reference⟩, others⟩ := List.forall_mem_cons.mp plain
    exact .append (.char markup reference) (ih others)

theorem Interruption.content {mark : List Char} (interrupts : Interruption mark) : Content mark := by
  cases interrupts with
  | reference within => exact .reference within
  | remark formed =>
    cases formed with
    | comment within => exact .comment within
    | instruction target within => exact .instruction target within
  | cdata within => exact .cdata within
  | element formed =>
    cases formed with
    | empty formed => exact .empty formed
    | filled formed inside blank => exact .element formed inside blank

theorem Runs.content {cs : List Char} {runs : List (List Char)} (parted : Runs cs runs) :
    Content cs := by
  induction parted with
  | last plain => exact plain.content
  | cons plain interrupts _ ih => exact .append plain.content (.append interrupts.content ih)

def Forest.Textless (nodes : Forest) : Prop := ∀ content, Node.text content ∉ nodes

theorem Silent.reads {mark : List Char} (silent : Silent mark) (data : List Char) (nest : Nest) :
    ∃ nodes, Forest.Textless nodes ∧ Cursor.Reads ⟨.content data, nest⟩ mark
      (Forest.events (heldText data ++ nodes)) ⟨.content [], nest⟩ := by
  refine ⟨[], fun _ => List.not_mem_nil, ?_⟩
  rw [List.append_nil]
  exact silent data nest

/-- An interruption ends the run in front of it and has no character data on its own level. -/
theorem Interruption.reads {mark : List Char} (interrupts : Interruption mark) (data : List Char)
    (nest : Nest) : ∃ nodes, Forest.Textless nodes ∧ Cursor.Reads ⟨.content data, nest⟩ mark
      (Forest.events (heldText data ++ nodes)) ⟨.content [], nest⟩ := by
  cases interrupts with
  | reference within => exact (silent_reference within).reads data nest
  | remark formed => exact formed.silent.reads data nest
  | cdata within => exact (silent_cdata within).reads data nest
  | @element t _ formed =>
    obtain ⟨nodes, reads⟩ := formed.reads nest data
    refine ⟨[t.node nest.scope nodes], fun content member => ?_, reads⟩
    cases List.mem_singleton.mp member

end Bindery.Xml
