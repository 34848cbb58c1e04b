import Bindery.Package.Source
import Bindery.Proofs.Action

/-! Sources under any schedule of reads. Whatever is asked for, and in whatever pieces, the octets
come in their order and each of them is counted once. The end is found by a read that asks for
octets and is given none, and by nothing else, so that what a close reports depends on the content
and not on the schedule. -/
namespace Bindery.Source

/-! ## One read -/

inductive Answers (source : Source) (limit : Nat) : Result Bytes → Source → Prop where
  | idle : limit = 0 → Answers source limit (.ok []) source
  | part (bytes rest : Bytes) : bytes ≠ [] → bytes.length ≤ limit → source.rest = bytes ++ rest →
      Answers source limit (.ok bytes)
        { source with rest, yielded := source.yielded + bytes.length }
  | broken (fault : StreamFault) : limit ≠ 0 → source.rest = [] → source.fault = some fault →
      Answers source limit (.error (.stream fault)) source
  | ended : limit ≠ 0 → source.rest = [] → source.fault = none →
      Answers source limit (.ok []) { source with ended := true }

theorem read_answers (source : Source) (limit : Nat) :
    Answers source limit ((read limit).perform source).1 ((read limit).perform source).2 := by
  by_cases idle : limit = 0
  · have ran : read limit source = .ok [] source := by rw [read, if_pos idle]
    rw [Action.perform_of_ok ran]
    exact .idle idle
  · cases held : source.rest with
    | nil =>
      cases breaks : source.fault with
      | some fault =>
        have ran : read limit source = .error (.stream fault) source := by
          simp only [read, if_neg idle, held, breaks]
        rw [Action.perform_of_error ran]
        exact .broken fault idle held breaks
      | none =>
        have ran : read limit source = .ok [] { source with ended := true } := by
          simp only [read, if_neg idle, held, breaks]
        rw [Action.perform_of_ok ran]
        exact .ended idle held breaks
    | cons b rest =>
      have ran : read limit source = .ok ((b :: rest).take limit) { source with
          rest := (b :: rest).drop limit
          yielded := source.yielded + ((b :: rest).take limit).length } := by
        simp only [read, if_neg idle, held]
      rw [Action.perform_of_ok ran]
      apply Answers.part
      · simpa using idle
      · exact List.length_take_le limit _
      · rw [held, List.take_append_drop]

/-! ## Schedules -/

/-- Reads one after the other, each with the number of octets that it asks for. One that fails ends
nothing: the next one is answered by what it has left. -/
def reads : List Nat → Source → List (Result Bytes) × Source
  | [], source => ([], source)
  | limit :: limits, source =>
    let (outcome, source) := (read limit).perform source
    let (outcomes, source) := reads limits source
    (outcome :: outcomes, source)

def received : List (Result Bytes) → Bytes
  | [] => []
  | .ok bytes :: outcomes => bytes ++ received outcomes
  | .error _ :: outcomes => received outcomes

def FindsEnd (limits : List Nat) (outcomes : List (Result Bytes)) : Prop :=
  ∃ answer ∈ limits.zip outcomes, answer.1 ≠ 0 ∧ answer.2 = .ok []

theorem findsEnd_cons {limit : Nat} {limits : List Nat} {outcome : Result Bytes}
    {outcomes : List (Result Bytes)} : FindsEnd (limit :: limits) (outcome :: outcomes) ↔
      (limit ≠ 0 ∧ outcome = .ok []) ∨ FindsEnd limits outcomes := by
  simp only [FindsEnd, List.zip_cons_cons, List.mem_cons, or_and_right, exists_or, exists_eq_left]

theorem reads_cons (limit : Nat) (limits : List Nat) (source : Source) :
    ∃ outcome between, Answers source limit outcome between ∧
      reads (limit :: limits) source =
        (outcome :: (reads limits between).1, (reads limits between).2) :=
  ⟨_, _, read_answers source limit, rfl⟩

structure Leaves (source : Source) (limits : List Nat) (outcomes : List (Result Bytes))
    (left : Source) : Prop where
  rest : source.rest = received outcomes ++ left.rest
  yielded : left.yielded = source.yielded + (received outcomes).length
  declared : left.declared = source.declared
  ended : left.ended = true ↔ source.ended = true ∨ FindsEnd limits outcomes
  exhausted : FindsEnd limits outcomes → left.rest = [] ∧ source.fault = none

theorem Leaves.nil (source : Source) : Leaves source [] [] source where
  rest := rfl
  yielded := rfl
  declared := rfl
  ended := by simp [FindsEnd]
  exhausted := by simp [FindsEnd]

theorem Leaves.cons {source between left : Source} {limit : Nat} {limits : List Nat}
    {outcome : Result Bytes} {outcomes : List (Result Bytes)}
    (answers : Answers source limit outcome between)
    (leaves : Leaves between limits outcomes left) :
    Leaves source (limit :: limits) (outcome :: outcomes) left := by
  obtain ⟨rest, yielded, declared, ended, exhausted⟩ := leaves
  cases answers with
  | idle zero =>
    have found : FindsEnd (limit :: limits) (.ok [] :: outcomes) ↔ FindsEnd limits outcomes := by
      rw [findsEnd_cons]
      exact or_iff_right fun first => first.1 zero
    exact ⟨rest, yielded, declared, by rw [found, ended], by rwa [found]⟩
  | part bytes behind some _ whole =>
    have found : FindsEnd (limit :: limits) (.ok bytes :: outcomes) ↔ FindsEnd limits outcomes := by
      rw [findsEnd_cons]
      exact or_iff_right fun first => some (Except.ok.inj first.2)
    refine ⟨?_, ?_, declared, by rw [found, ended], by rwa [found]⟩
    · rw [whole, received, List.append_assoc, ← rest]
    · rw [yielded, received, List.length_append, Nat.add_assoc]
  | broken fault _ _ breaks =>
    have found : FindsEnd (limit :: limits) (.error (.stream fault) :: outcomes) ↔
        FindsEnd limits outcomes := by
      rw [findsEnd_cons]
      exact or_iff_right fun first => nomatch first.2
    exact ⟨rest, yielded, declared, by rw [found, ended], by rwa [found]⟩
  | ended positive empty sound =>
    have found : FindsEnd (limit :: limits) (.ok [] :: outcomes) :=
      findsEnd_cons.mpr (.inl ⟨positive, rfl⟩)
    refine ⟨rest, yielded, declared, ?_, ?_⟩
    · simp [ended, found]
    · intro _
      have nothing : received outcomes ++ left.rest = [] := rest.symm.trans empty
      exact ⟨(List.append_eq_nil_iff.mp nothing).2, sound⟩

theorem leaves_reads (limits : List Nat) (source : Source) :
    Leaves source limits (reads limits source).1 (reads limits source).2 := by
  induction limits generalizing source with
  | nil => exact Leaves.nil source
  | cons limit limits ih =>
    obtain ⟨outcome, between, answers, ran⟩ := reads_cons limit limits source
    rw [ran]
    exact Leaves.cons answers (ih between)

/-! ## The end -/

theorem findsEnd_of_enough (limits : List Nat) {source : Source} (sound : source.fault = none)
    (enough : source.rest.length < limits.countP (· ≠ 0)) :
    FindsEnd limits (reads limits source).1 := by
  induction limits generalizing source with
  | nil => exact absurd enough (Nat.not_lt_zero _)
  | cons limit limits ih =>
    obtain ⟨outcome, between, answers, ran⟩ := reads_cons limit limits source
    rw [ran, findsEnd_cons]
    rw [List.countP_cons] at enough
    cases answers with
    | idle zero =>
      right
      apply ih sound
      simpa [zero] using enough
    | part bytes rest some fits whole =>
      right
      have positive : 0 < bytes.length := List.length_pos_iff.mpr some
      rw [whole, List.length_append] at enough
      have fewer : rest.length < limits.countP (· ≠ 0) := by
        split at enough <;> omega
      let between : Source := { source with rest, yielded := source.yielded + bytes.length }
      exact @ih between sound fewer
    | broken fault _ _ breaks =>
      rw [sound] at breaks
      cases breaks
    | ended asked _ _ => exact .inl ⟨asked, rfl⟩

section
variable {content : Bytes} {fault : Option StreamFault} {declared : Nat} {limits : List Nat}
  {outcomes : List (Result Bytes)} {left : Source}

theorem close_of_leaves
    (leaves : Leaves { rest := content, fault, declared } limits outcomes left) (e : Error) :
    left.close = .error e ↔ e = .stream (.wrongLength (received outcomes).length declared) ∧
      FindsEnd limits outcomes ∧ (received outcomes).length ≠ declared := by
  have ended : left.ended = true ↔ FindsEnd limits outcomes := by
    rw [leaves.ended]
    exact or_iff_right nofun
  have yielded : left.yielded = (received outcomes).length :=
    leaves.yielded.trans (Nat.zero_add _)
  have wrong : (left.ended = true ∧ left.yielded ≠ left.declared) ↔
      FindsEnd limits outcomes ∧ (received outcomes).length ≠ declared := by
    rw [ended, yielded, leaves.declared]
  have message : StreamFault.wrongLength left.yielded left.declared =
      .wrongLength (received outcomes).length declared := by
    rw [yielded, leaves.declared]
  unfold close
  split
  · rename_i reported
    constructor
    · intro same
      rw [← message]
      exact ⟨(Except.error.inj same).symm, wrong.mp reported⟩
    · rintro ⟨rfl, _⟩
      rw [message]
  · rename_i sound
    constructor
    · intro same
      cases same
    · rintro ⟨_, reported⟩
      exact absurd (wrong.mpr reported) sound

theorem close_ok_of_leaves
    (leaves : Leaves { rest := content, fault, declared } limits outcomes left) :
    left.close = .ok () ↔ ¬ (FindsEnd limits outcomes ∧ (received outcomes).length ≠ declared) := by
  have reports := close_of_leaves leaves
  cases closed : left.close with
  | ok =>
    refine iff_of_true rfl ?_
    intro wrong
    have failed := (reports (.stream (.wrongLength _ _))).mpr ⟨rfl, wrong⟩
    rw [closed] at failed
    cases failed
  | error e =>
    refine iff_of_false nofun ?_
    intro sound
    exact sound ((reports e).mp closed).2

/-- Where the end was found, all of the content has come, and the close depends on nothing else. -/
theorem received_of_findsEnd
    (leaves : Leaves { rest := content, fault, declared } limits outcomes left)
    (found : FindsEnd limits outcomes) :
    received outcomes = content ∧ left.close = close
      { rest := [], declared, yielded := content.length, ended := true } := by
  have whole : received outcomes = content := by
    have parts : content = received outcomes ++ left.rest := leaves.rest
    rw [(leaves.exhausted found).1, List.append_nil] at parts
    exact parts.symm
  have ended : left.ended = true := leaves.ended.mpr (.inr found)
  have yielded : left.yielded = content.length := by
    rw [leaves.yielded, whole]
    exact Nat.zero_add _
  refine ⟨whole, ?_⟩
  simp only [close, ended, yielded, leaves.declared]

/-- The reads of any schedule yield a front part of the content. The close behind them reports the
number of octets that came and the one that was declared if and only if these differ and the end was
found. All schedules that find the end yield the whole content, and a close behind them reports the
same; a sound stream has an end that every long enough schedule finds. -/
theorem close_of_reads
    (ran : reads limits { rest := content, fault, declared } = (outcomes, left)) :
    received outcomes <+: content ∧
    (∀ e, left.close = .error e ↔
      e = .stream (.wrongLength (received outcomes).length declared) ∧
        FindsEnd limits outcomes ∧ (received outcomes).length ≠ declared) ∧
    (∀ e, left.close = .error e → e.message =
      s!"IO error: entry yielded {(received outcomes).length} bytes but declares {declared}") ∧
    (left.close = .ok () ↔
      ¬ (FindsEnd limits outcomes ∧ (received outcomes).length ≠ declared)) ∧
    (∀ others outcomes' left',
      reads others { rest := content, fault, declared } = (outcomes', left') →
      FindsEnd limits outcomes → FindsEnd others outcomes' →
        received outcomes = content ∧ received outcomes' = content ∧ left'.close = left.close ∧
          (left.close = .ok () ↔ content.length = declared)) ∧
    (fault = none → content.length < limits.countP (· ≠ 0) → FindsEnd limits outcomes) := by
  have leaves_of {limits outcomes left}
      (ran : reads limits { rest := content, fault, declared } = (outcomes, left)) :
      Leaves { rest := content, fault, declared } limits outcomes left := by
    have leaves := leaves_reads limits { rest := content, fault, declared }
    rwa [ran] at leaves
  have leaves := leaves_of ran
  refine ⟨?_, close_of_leaves leaves, ?_, close_ok_of_leaves leaves, ?_, ?_⟩
  · exact ⟨left.rest, leaves.rest.symm⟩
  · intro e reported
    obtain ⟨rfl, _⟩ := (close_of_leaves leaves e).mp reported
    rfl
  · intro others outcomes' left' ran' found found'
    obtain ⟨whole, closed⟩ := received_of_findsEnd leaves found
    obtain ⟨whole', closed'⟩ := received_of_findsEnd (leaves_of ran') found'
    refine ⟨whole, whole', closed'.trans closed.symm, ?_⟩
    rw [close_ok_of_leaves leaves, whole, not_and, ne_eq, Decidable.not_not]
    exact ⟨fun same => same found, fun same _ => same⟩
  · intro sound enough
    have found := @findsEnd_of_enough limits { rest := content, fault, declared } sound enough
    rwa [ran] at found

theorem close_of_reads_shortEntry :
    reads [0, 2, 0, 7, 1, 4] { rest := [1, 2, 3], declared := 5 } =
        ([.ok [], .ok [1, 2], .ok [], .ok [3], .ok [], .ok []],
          { rest := [], declared := 5, yielded := 3, ended := true }) ∧
      close { rest := [], declared := 5, yielded := 3, ended := true } =
        .error (.stream (.wrongLength 3 5)) := by
  have ran : reads [0, 2, 0, 7, 1, 4] { rest := [1, 2, 3], declared := 5 } =
      ([.ok [], .ok [1, 2], .ok [], .ok [3], .ok [], .ok []],
        { rest := [], declared := 5, yielded := 3, ended := true }) := rfl
  obtain ⟨_, reports, _, _, _, found⟩ := close_of_reads ran
  exact ⟨ran, (reports _).mpr ⟨rfl, found rfl (by decide), by decide⟩⟩

end

end Bindery.Source
