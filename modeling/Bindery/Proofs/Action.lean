import Bindery.Action

/-! Results and actions taken apart. A chain of steps ends where its first failing step does, in the
state that this step has left. -/
namespace Bindery

theorem ok_of_bind {ε α β : Type} {first : Except ε α} {next : α → Except ε β} {b : β}
    (chain : (first >>= next) = .ok b) : ∃ a, first = .ok a ∧ next a = .ok b := by
  cases first with
  | error e => cases chain
  | ok a => exact ⟨a, rfl, chain⟩

theorem ok_of_map {α β : Type} {first : Result α} {change : α → β} {b : β}
    (mapped : first.map change = .ok b) : ∃ a, first = .ok a ∧ change a = b := by
  cases first with
  | error e => cases mapped
  | ok a => exact ⟨a, rfl, Except.ok.inj mapped⟩

theorem ok_of_toOption {α : Type} {result : Result α} {a : α} (found : result.toOption = some a) :
    result = .ok a := by
  cases result with
  | error e => cases found
  | ok b => exact congrArg _ (Option.some.inj found)

theorem toOption_bind {ε α β : Type} (first : Except ε α) (next : α → Except ε β) :
    (first >>= next).toOption = first.toOption.bind fun a => (next a).toOption := by
  cases first with
  | error e => rfl
  | ok a => rfl

theorem bind_of_eq_ok {α β : Type} {first : Result α} {a : α} (ok : first = .ok a)
    (next : α → Result β) : (first >>= next) = next a := by
  rw [ok]
  rfl

theorem bind_of_eq_error {α β : Type} {first : Result α} {e : Error} (failed : first = .error e)
    (next : α → Result β) : (first >>= next) = .error e := by
  rw [failed]
  rfl

/-! ## Results along lists -/

section

variable {α β : Type} {read : α → Result β} {items : List α} {made : List β}

theorem map_of_mapM (mapped : items.mapM read = .ok made) : items.map read = made.map .ok := by
  induction items generalizing made with
  | nil =>
    cases mapped
    rfl
  | cons item items ih =>
    rw [List.mapM_cons] at mapped
    obtain ⟨first, here, mapped⟩ := ok_of_bind mapped
    obtain ⟨others, there, mapped⟩ := ok_of_bind mapped
    cases mapped
    exact congr (congrArg List.cons here) (ih there)

theorem mem_made_of_mapM (mapped : items.mapM read = .ok made) {item : α} (listed : item ∈ items) :
    ∃ b ∈ made, read item = .ok b := by
  have same : read item ∈ made.map .ok := map_of_mapM mapped ▸ List.mem_map_of_mem listed
  obtain ⟨b, there, ran⟩ := List.mem_map.mp same
  exact ⟨b, there, ran.symm⟩

theorem of_mem_mapM_list (mapped : items.mapM read = .ok made) {b : β} (listed : b ∈ made) :
    ∃ item ∈ items, read item = .ok b :=
  List.mem_map.mp (map_of_mapM mapped ▸ List.mem_map_of_mem listed)

theorem map_of_mapM_tells (mapped : items.mapM read = .ok made) {γ : Type} {tell : β → γ}
    {told : α → γ} (tells : ∀ item b, read item = .ok b → tell b = told item) :
    made.map tell = items.map told := by
  induction items generalizing made with
  | nil =>
    cases mapped
    rfl
  | cons item items ih =>
    rw [List.mapM_cons] at mapped
    obtain ⟨first, here, mapped⟩ := ok_of_bind mapped
    obtain ⟨others, there, mapped⟩ := ok_of_bind mapped
    cases mapped
    rw [List.map_cons, List.map_cons, tells item first here, ih there]

/-- What is made of a list tells its items, if each part of it tells the one that it is made of. -/
theorem map_back_of_mapM (mapped : items.mapM read = .ok made) {back : β → α}
    (tells : ∀ item b, read item = .ok b → back b = item) : made.map back = items :=
  (map_of_mapM_tells mapped tells).trans (List.map_id items)

end

namespace Action

variable {σ τ α β : Type} {act : Action σ α} {next : α → Action σ β} {s t : σ}

theorem bind_of_ok {a : α} (first : act s = .ok a t) : (act >>= next) s = next a t := by
  simp only [bind, EStateM.bind, first]

theorem bind_of_error {e : Error} (first : act s = .error e t) :
    (act >>= next) s = .error e t := by
  simp only [bind, EStateM.bind, first]

theorem bind_ok {b : β} {u : σ} (chain : (act >>= next) s = .ok b u) :
    ∃ a t, act s = .ok a t ∧ next a t = .ok b u := by
  cases first : act s with
  | ok a t => exact ⟨a, t, rfl, by rwa [bind_of_ok first] at chain⟩
  | error e t =>
    rw [bind_of_error first] at chain
    cases chain

theorem perform_of_ok {a : α} (ran : act s = .ok a t) : act.perform s = (.ok a, t) := by
  simp only [perform, EStateM.run, ran]

theorem perform_of_error {e : Error} (ran : act s = .error e t) :
    act.perform s = (.error e, t) := by
  simp only [perform, EStateM.run, ran]

theorem perform_bind_of_ok {a : α} (first : act s = .ok a t) :
    (act >>= next).perform s = (next a).perform t := by
  simp only [perform, EStateM.run, bind_of_ok first]

theorem perform_bind_of_error {e : Error} (first : act s = .error e t) :
    (act >>= next).perform s = (.error e, t) :=
  perform_of_error (bind_of_error first)

theorem attempt_eq (act : Action σ α) (s : σ) :
    act.attempt s = .ok (act.perform s).1 (act.perform s).2 := by
  cases ran : act s with
  | ok a t => simp only [attempt, ran, perform_of_ok ran]
  | error e t => simp only [attempt, ran, perform_of_error ran]

theorem ok_of_perform {a : α} (ran : (act.perform s).1 = .ok a) : ∃ t, act s = .ok a t := by
  cases first : act s with
  | ok b t =>
    rw [perform_of_ok first] at ran
    cases ran
    exact ⟨t, rfl⟩
  | error e t =>
    rw [perform_of_error first] at ran
    cases ran

@[simp] theorem perform_ofResult (result : Result α) (s : σ) :
    (ofResult result : Action σ α).perform s = (result, s) := by
  cases result with
  | ok a => rfl
  | error e => rfl

theorem ofResult_of_ok {a : α} {result : Result α} (found : result = .ok a) :
    (ofResult result : Action σ α) s = .ok a s := by
  subst found
  rfl

theorem ofResult_of_error {e : Error} {result : Result α} (failed : result = .error e) :
    (ofResult result : Action σ α) s = .error e s := by
  subst failed
  rfl

theorem eq_of_ofResult {a : α} {result : Result α}
    (found : (ofResult result : Action σ α) s = .ok a t) : t = s ∧ result = .ok a := by
  cases result with
  | ok b =>
    cases found
    exact ⟨rfl, rfl⟩
  | error e => cases found

theorem onFault_of_ok {change : σ → σ} {a : α} (ran : act s = .ok a t) :
    act.onFault change s = .ok a t := by
  simp only [onFault, ran]

theorem onFault_of_error {change : σ → σ} {e : Error} (ran : act s = .error e t) :
    act.onFault change s = .error e (change t) := by
  simp only [onFault, ran]

theorem ok_of_onFault {change : σ → σ} {a : α} (ran : act.onFault change s = .ok a t) :
    act s = .ok a t := by
  cases first : act s with
  | ok b u => rwa [onFault_of_ok first] at ran
  | error e u =>
    rw [onFault_of_error first] at ran
    cases ran

variable {part : τ → σ} {replace : τ → σ → τ} {whole : τ}

theorem within_of_ok {a : α} (ran : act (part whole) = .ok a s) :
    act.within part replace whole = .ok a (replace whole s) := by
  simp only [within, ran]

theorem within_of_error {e : Error} (ran : act (part whole) = .error e s) :
    act.within part replace whole = .error e (replace whole s) := by
  simp only [within, ran]

/-! ## What actions keep, and how they do not fail -/

def Keeps {γ : Type} (view : σ → γ) (act : Action σ α) : Prop :=
  ∀ s, view (act.perform s).2 = view s

def Avoids (kind : Error → Prop) (act : Action σ α) : Prop :=
  ∀ s e, (act.perform s).1 = .error e → ¬ kind e

section
variable {γ : Type} {view : σ → γ} {kind : Error → Prop}

theorem keeps_pure (a : α) : (pure a : Action σ α).Keeps view := fun _ => rfl

theorem keeps_get : (get : Action σ σ).Keeps view := fun _ => rfl

theorem keeps_ofResult (result : Result α) : (ofResult result : Action σ α).Keeps view := by
  intro s
  rw [perform_ofResult]

theorem Keeps.bind (first : act.Keeps view) (rest : ∀ a, (next a).Keeps view) :
    (act >>= next).Keeps view := by
  intro s
  have here := first s
  cases ran : act s with
  | ok a t =>
    rw [perform_of_ok ran] at here
    rw [perform_bind_of_ok ran, rest a t, here]
  | error e t =>
    rw [perform_of_error ran] at here
    rw [perform_bind_of_error ran, here]

theorem keeps_within {inner : Action τ α} {part : σ → τ} {replace : σ → τ → σ}
    (apart : ∀ s t, view (replace s t) = view s) : (inner.within part replace).Keeps view := by
  intro s
  cases ran : inner (part s) with
  | ok a t => rw [perform_of_ok (within_of_ok ran), apart]
  | error e t => rw [perform_of_error (within_of_error ran), apart]

theorem avoids_pure (a : α) : (pure a : Action σ α).Avoids kind := fun _ _ failed => nomatch failed

theorem avoids_get : (get : Action σ σ).Avoids kind := fun _ _ failed => nomatch failed

theorem avoids_modify (change : σ → σ) : (modify change : Action σ PUnit).Avoids kind :=
  fun _ _ failed => nomatch failed

theorem avoids_ofResult {result : Result α} (none : ∀ e, result = .error e → ¬ kind e) :
    (ofResult result : Action σ α).Avoids kind := by
  intro s e failed
  rw [perform_ofResult] at failed
  exact none e failed

theorem Avoids.bind (first : act.Avoids kind) (rest : ∀ a, (next a).Avoids kind) :
    (act >>= next).Avoids kind := by
  intro s e failed
  cases ran : act s with
  | ok a t =>
    rw [perform_bind_of_ok ran] at failed
    exact rest a t e failed
  | error e' t =>
    rw [perform_bind_of_error ran] at failed
    cases failed
    exact first s e (by rw [perform_of_error ran])

theorem Avoids.onFault {change : σ → σ} (avoids : act.Avoids kind) :
    (act.onFault change).Avoids kind := by
  intro s e failed
  cases ran : act s with
  | ok a t =>
    rw [perform_of_ok (onFault_of_ok ran)] at failed
    cases failed
  | error e' t =>
    rw [perform_of_error (onFault_of_error ran)] at failed
    cases failed
    exact avoids s e (by rw [perform_of_error ran])

theorem Avoids.within {inner : Action τ α} {part : σ → τ} {replace : σ → τ → σ}
    (avoids : inner.Avoids kind) : (inner.within part replace).Avoids kind := by
  intro s e failed
  cases ran : inner (part s) with
  | ok a t =>
    rw [perform_of_ok (within_of_ok ran)] at failed
    cases failed
  | error e' t =>
    rw [perform_of_error (within_of_error ran)] at failed
    cases failed
    exact avoids (part s) e (by rw [perform_of_error ran])

theorem avoids_forM {β : Type} {each : β → Action σ PUnit} (avoids : ∀ b, (each b).Avoids kind)
    (items : List β) : (items.forM each : Action σ PUnit).Avoids kind := by
  induction items with
  | nil => exact avoids_pure _
  | cons item items ih => exact (avoids item).bind fun _ => ih

end

end Action
end Bindery
