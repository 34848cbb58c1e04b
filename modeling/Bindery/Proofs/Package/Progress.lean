import Bindery.Proofs.Package.Copying
import Bindery.Proofs.Package.Run

/-! Steps that succeed. On a device that refuses nothing an entry of a new name is written, a
resource that yields as much as it declares is copied, and a writer that holds whole entries is
closed. -/
namespace Bindery

open Zip (Archive Member Method Output Unsealed)

def Source.Sound (source : Source) : Prop :=
  source.fault = none ∧ source.yielded + source.rest.length = source.declared

/-- A resource whose content can be copied. -/
def Resource.Sound (r : Resource) : Prop := ∃ source, r.source = .ok source ∧ source.Sound

namespace Zip.Output

variable {o : Output}

theorem not_unstarted (takes : o.device.refused = none) {name : String} (fresh : name ∉ o.names)
    {o' : Output} : ¬ Unstarted o name o' := by
  intro unstarted
  cases unstarted with
  | taken taken => exact fresh taken
  | unsigned _ _ signature =>
    rw [refuses_of_refused_none takes] at signature
    cases signature
  | nameless _ _ refused =>
    rw [refuses_of_refused_none takes] at refused
    cases refused

theorem start_of_taken (takes : o.device.refused = none) {name : String} (method : Method)
    (fresh : name ∉ o.names) : start name method o = .ok () (o.opened { name, method }) := by
  rcases start_cases o name method with ⟨started, _⟩ | ⟨_, _, _, unstarted⟩
  · exact started
  · exact absurd unstarted (not_unstarted takes fresh)

theorem write_of_taken (takes : o.device.refused = none) (e : Unsealed) (bytes : Bytes) :
    write bytes (o.opened e) = .ok () (o.opened { e with content := e.content ++ bytes }) := by
  rcases write_cases o e bytes with written | ⟨_, _, _, _, refused⟩
  · exact written
  · rw [refuses_of_refused_none takes] at refused
    cases refused

theorem filled_of_taken (takes : o.device.refused = none) (flushes : o.device.refusesFlush = false)
    {name : String} (method : Method) (content : Bytes) (flushed : Bool) (fresh : name ∉ o.names) :
    (do
      start name method
      write content
      if flushed then flush : Action Output Unit) o =
      .ok () (o.opened { name, method, content }) := by
  rw [Action.bind_of_ok (start_of_taken takes method fresh),
    Action.bind_of_ok (write_of_taken takes _ content)]
  cases flushed with
  | false => rfl
  | true => exact flush_of_taken (by rwa [opened, settle_device])

theorem forM_centralHeader_of_taken (takes : o.device.refused = none) (slots : List Slot) :
    (slots.forM centralHeader : Action Output Unit) o = .ok () o := by
  have nothing := fun bytes => refuses_of_refused_none takes bytes
  induction slots with
  | nil => rfl
  | cons slot slots ih =>
    have first : centralHeader slot o = .ok () o := by
      unfold centralHeader
      rw [Action.bind_of_ok (emit_of_taken (nothing _))]
      exact emit_of_taken (nothing _)
    change (centralHeader slot >>= fun _ => slots.forM centralHeader) o = .ok () o
    rw [Action.bind_of_ok first]
    exact ih

theorem finish_of_taken (takes : o.device.refused = none) : finish o = .ok () o.settle := by
  have takes : o.settle.device.refused = none := by rwa [settle_device]
  have settled : (modify settle : Action Output Unit) o = .ok PUnit.unit o.settle := rfl
  have got : (get : Action Output Output) o.settle = .ok o.settle o.settle := rfl
  unfold finish
  rw [Action.bind_of_ok settled, Action.bind_of_ok got,
    Action.bind_of_ok (forM_centralHeader_of_taken takes _)]
  exact emit_of_taken (refuses_of_refused_none takes _)

theorem forM_emit_of_taken (takes : o.device.refused = none) (parts : List Bytes) :
    (parts.forM emit : Action Output Unit) o = .ok () o := by
  induction parts with
  | nil => rfl
  | cons part parts ih =>
    have first : emit part o = .ok () o := emit_of_taken (refuses_of_refused_none takes part)
    change (emit part >>= fun _ => parts.forM emit) o = .ok () o
    rw [Action.bind_of_ok first]
    exact ih

theorem copyMember_of_taken (takes : o.device.refused = none) {m : Member}
    (fresh : m.name ∉ o.names) :
    copyMember m o = .ok () (o.settle.push (.member { m with encrypted := false })) := by
  have begun : header m.name o = .ok () o.settle := by
    rcases header_cases o m.name with ⟨begun, _⟩ | ⟨_, _, _, unstarted⟩
    · exact begun
    · exact absurd unstarted (not_unstarted takes fresh)
  unfold copyMember
  rw [Action.bind_of_ok begun]
  by_cases stored : m.packing = .known .stored
  · have takes : o.settle.device.refused = none := by rwa [settle_device]
    rw [if_pos stored, Action.bind_of_ok (forM_emit_of_taken takes _)]
    rfl
  · rw [if_neg stored]
    rfl

@[simp] theorem names_opened (o : Output) (e : Unsealed) :
    (o.opened e).names = o.names ++ [e.name] := by
  simp only [names, slots_settle_opened, List.map_append]
  rfl

theorem names_push (o : Output) (slot : Slot) :
    (o.settle.push slot).names = o.names ++ [slot.name] := by
  have settled : (o.settle.push slot).settle = o.settle.push slot := by
    cases current : o.current with
    | none => simp only [settle, push, current]
    | some e => simp only [settle, push, current]
  rw [names, settled]
  exact List.map_append

end Zip.Output

namespace Writer

variable {α : Type}

/-- A writer that has abandoned nothing, on a device that refuses nothing. -/
structure Willing (w : Writer α) : Prop where
  intact : w.abandoned = none
  takes : w.output.device.refused = none
  flushes : w.output.device.refusesFlush = false

variable {w : Writer α}

theorem Willing.opened (willing : w.Willing) (e : Unsealed) (ledger : α) :
    ({ w with output := w.output.opened e, ledger } : Writer α).Willing where
  intact := willing.intact
  takes := by simpa [Output.opened] using willing.takes
  flushes := by simpa [Output.opened] using willing.flushes

theorem Willing.settled (willing : w.Willing) :
    ({ w with output := w.output.settle } : Writer α).Willing where
  intact := willing.intact
  takes := by simpa using willing.takes
  flushes := by simpa using willing.flushes

theorem Willing.behind (willing : w.Willing) {w' : Writer α}
    (grown : Output.Extends w.output w'.output) (kept : ¬ w'.Doomed) : w'.Willing where
  intact := Option.not_isSome_iff_eq_none.mp fun given => kept (.inl given)
  takes := grown.refused.trans willing.takes
  flushes := grown.refusesFlush.trans willing.flushes

theorem Willing.not_doomed (willing : w.Willing) : ¬ w.Doomed := by
  rintro (given | ⟨name, _, refused⟩)
  · rw [willing.intact] at given
    cases given
  · rw [Output.refuses_of_refused_none willing.takes] at refused
    cases refused

variable [Ledger α]

theorem newFile_of_willing (willing : w.Willing) {path : String} (type : String) (method : Method)
    (fresh : path ∉ w.output.names) :
    (Sink.newFile path type method : Action (Writer α) Draft) w =
      .ok { path, type, method } (w.writing path method []) := by
  change newFile path type method w = _
  unfold newFile
  rw [Action.bind_of_ok (checkIntact_of_intact willing.intact),
    Action.bind_of_ok (onOutput_of_ok (Output.start_of_taken willing.takes method fresh))]
  rfl

theorem append_of_willing (willing : w.Willing) (e : Unsealed) (draft : Draft) (bytes : Bytes) :
    (Sink.append draft bytes : Action (Writer α) Draft) { w with output := w.output.opened e } =
      .ok { draft with written := draft.written + bytes.length }
        { w with output := w.output.opened { e with content := e.content ++ bytes } } := by
  have written : (Sink.write bytes : Action (Writer α) Unit)
      { w with output := w.output.opened e } = .ok () _ :=
    onOutput_of_ok (w := { w with output := w.output.opened e })
      (Output.write_of_taken willing.takes e bytes)
  unfold Sink.append
  rw [Action.bind_of_ok written]
  rfl

theorem chunks_of_willing (willing : w.Willing) (chunks : List Bytes) (e : Unsealed)
    (draft : Draft) :
    (chunks.foldlM Sink.append draft : Action (Writer α) Draft)
        { w with output := w.output.opened e } =
      .ok { draft with written := draft.written + chunks.flatten.length } { w with
        output := w.output.opened { e with content := e.content ++ chunks.flatten } } := by
  induction chunks generalizing e draft with
  | nil =>
    rw [List.flatten_nil, List.append_nil]
    rfl
  | cons chunk chunks ih =>
    have rest := ih { e with content := e.content ++ chunk }
      { draft with written := draft.written + chunk.length }
    rw [List.foldlM_cons, Action.bind_of_ok (append_of_willing willing e draft chunk), rest,
      List.flatten_cons, List.append_assoc, List.length_append, Nat.add_assoc]

theorem transfer_of_willing (willing : w.Willing) {source : Source} (whole : source.fault = none)
    (e : Unsealed) (draft : Draft) : ∃ moved : Draft,
      (Resource.transfer draft source : Action (Writer α) (Draft × Source))
          { w with output := w.output.opened e } =
        .ok (moved, exhausted source) { w with
          output := w.output.opened { e with content := e.content ++ source.rest } } := by
  have moved := chunks_of_willing willing (pieces Source.transferUnit source.rest) e draft
  rw [flatten_pieces (by decide)] at moved
  rw [transfer_sound _ _ whole, Action.bind_of_ok moved]
  exact ⟨_, rfl⟩

theorem commit_of_willing (willing : w.Willing) (draft : Draft) :
    (Sink.commit draft : Action (Writer α) Unit) w =
      .ok () { w with ledger := Ledger.commit draft w.ledger } := by
  rcases commit_cases w draft with ⟨_, ran⟩ | ⟨refused, _⟩
  · exact ran
  · rw [willing.flushes] at refused
    cases refused

/-- An entry of a new name is written, up to its commit or to its being given up. -/
theorem written_of_willing (willing : w.Willing) (plan : EntryPlan)
    (fresh : plan.path ∉ w.output.names) : ∃ draft : Draft,
      draft.path = plan.path ∧ draft.plaintextDeflated = plan.plaintextDeflated ∧
      ((Step.file plan).run : Action (Writer α) Unit).perform w =
        (if plan.finishes then Sink.commit draft else modify (Sink.abandon draft) :
          Action (Writer α) Unit).perform
            (w.writing plan.path plan.method plan.chunks.flatten) := by
  let opened : Draft := {
    path := plan.path
    type := plan.type
    method := plan.method
    plaintextDeflated := plan.plaintextDeflated }
  let draft := { opened with written := opened.written + plan.chunks.flatten.length }
  have filled : Sink.guarded opened (do
      let draft ← plan.chunks.foldlM Sink.append opened
      if plan.flushes then Sink.flush
      return draft : Action (Writer α) Draft) (w.writing plan.path plan.method []) =
      .ok draft (w.writing plan.path plan.method plan.chunks.flatten) := by
    apply Action.onFault_of_ok
    have moved : (plan.chunks.foldlM Sink.append opened : Action (Writer α) Draft)
        (w.writing plan.path plan.method []) = .ok draft _ :=
      chunks_of_willing willing plan.chunks { name := plan.path, method := plan.method } opened
    rw [Action.bind_of_ok moved]
    cases plan.flushes with
    | false => rfl
    | true =>
      have later := willing.opened
        { name := plan.path, method := plan.method, content := plan.chunks.flatten } w.ledger
      have flushed : (Sink.flush : Action (Writer α) Unit)
          (w.writing plan.path plan.method plan.chunks.flatten) = .ok () _ :=
        onOutput_of_ok (Output.flush_of_taken later.flushes)
      exact Action.bind_of_ok flushed
  refine ⟨draft, rfl, rfl, ?_⟩
  rw [run_file, Action.perform_bind_of_ok (newFile_of_willing willing plan.type plan.method fresh),
    Action.perform_bind_of_ok filled]

theorem file_of_willing (willing : w.Willing) (plan : EntryPlan)
    (fresh : plan.path ∉ w.output.names) (finishes : plan.finishes = true) : ∃ draft : Draft,
      draft.path = plan.path ∧ draft.plaintextDeflated = plan.plaintextDeflated ∧
      ((Step.file plan).run : Action (Writer α) Unit).perform w = (.ok (), { w with
        output := w.output.opened
          { name := plan.path, method := plan.method, content := plan.chunks.flatten }
        ledger := Ledger.commit draft w.ledger }) := by
  obtain ⟨draft, path, flag, ran⟩ := written_of_willing willing plan fresh
  have later : (w.writing plan.path plan.method plan.chunks.flatten).Willing :=
    willing.opened _ w.ledger
  refine ⟨draft, path, flag, ?_⟩
  rw [ran, if_pos finishes, Action.perform_of_ok (commit_of_willing later draft)]
  rfl

theorem doomed_of_unfinished (willing : w.Willing) (plan : EntryPlan)
    (fresh : plan.path ∉ w.output.names) (given : plan.finishes = false) :
    (((Step.file plan).run : Action (Writer α) Unit).perform w).2.Doomed := by
  obtain ⟨draft, _, _, ran⟩ := written_of_willing willing plan fresh
  rw [ran, if_neg (by simp [given])]
  exact doomed_abandon draft _

theorem doomed_of_unopened (willing : w.Willing) {r : Resource} {e : Error}
    (closed : r.source = .error e) (fresh : r.path ∉ w.output.names) :
    (((Step.copy r).run : Action (Writer α) Unit).perform w).2.Doomed := by
  have opened := newFile_of_willing willing r.type r.method fresh
  change (Action.perform (Resource.copyTo r) w).2.Doomed
  rw [Action.perform_of_error (copyTo_unopened opened closed)]
  exact doomed_abandon _ _

theorem file_of_taken (willing : w.Willing) (plan : EntryPlan) (taken : plan.path ∈ w.output.names)
    (kept : ¬ (((Step.file plan).run : Action (Writer α) Unit).perform w).2.Doomed) :
    ∃ e, ((Step.file plan).run : Action (Writer α) Unit).perform w =
      (.error e, { w with output := w.output.settle }) := by
  have entered := entered_file w plan
  generalize ((Step.file plan).run : Action (Writer α) Unit).perform w = result at kept entered ⊢
  obtain ⟨outcome, w'⟩ := result
  cases entered with
  | lost doomed => exact absurd doomed kept
  | repeated => exact ⟨_, rfl⟩
  | unsigned _ _ signature =>
    rw [Output.refuses_of_refused_none willing.takes] at signature
    cases signature
  | stray _ fresh => exact absurd taken fresh
  | committed _ fresh => exact absurd taken fresh

theorem copy_of_willing (willing : w.Willing) {r : Resource} (sound : r.Sound)
    (fresh : r.path ∉ w.output.names) : ∃ draft : Draft,
      ((Step.copy r).run : Action (Writer α) Unit).perform w = (.ok (), { w with
        output := w.output.opened { name := r.path, method := r.method, content := copied r }
        ledger := Ledger.commit draft w.ledger }) := by
  obtain ⟨source, opens, whole, measured⟩ := sound
  have content : copied r = source.rest := by rw [copied, opens]
  obtain ⟨draft, moved⟩ := transfer_of_willing willing whole
    { name := r.path, method := r.method } { path := r.path, type := r.type, method := r.method }
  have closes : (exhausted source).close = .ok () := by
    unfold Source.close
    rw [if_neg]
    exact fun both => both.2 measured
  have transferred : (do
      let source ← Action.ofResult r.source
      Resource.transfer { path := r.path, type := r.type, method := r.method } source :
        Action (Writer α) (Draft × Source)) (w.writing r.path r.method []) =
      .ok (draft, exhausted source) (w.writing r.path r.method (copied r)) := by
    rw [Action.bind_of_ok (Action.ofResult_of_ok opens), content]
    exact moved
  have guarded : Sink.guarded { path := r.path, type := r.type, method := r.method } (do
      let source ← Action.ofResult r.source
      Resource.transfer { path := r.path, type := r.type, method := r.method } source :
        Action (Writer α) (Draft × Source)) (w.writing r.path r.method []) =
      .ok (draft, exhausted source) (w.writing r.path r.method (copied r)) :=
    Action.onFault_of_ok transferred
  have later : (w.writing r.path r.method (copied r)).Willing := willing.opened _ w.ledger
  refine ⟨draft, ?_⟩
  change Action.perform (Resource.copyTo r) w = _
  unfold Resource.copyTo
  rw [Action.perform_bind_of_ok (newFile_of_willing willing r.type r.method fresh),
    Action.perform_bind_of_ok guarded, perform_copied,
    Action.perform_of_ok (commit_of_willing later draft), closes]
  rfl

theorem copy_of_repeated (willing : w.Willing) {r : Resource} (taken : r.path ∈ w.output.names) :
    ∃ e, ((Step.copy r).run : Action (Writer α) Unit).perform w =
      (.error e, { w with output := w.output.settle }) := by
  obtain ⟨e, refused⟩ := Output.header_of_taken taken
  have unstarted : Output.start r.path r.method w.output = .error e w.output.settle :=
    Action.bind_of_error refused
  have failed : (Sink.newFile r.path r.type r.method : Action (Writer α) Draft) w =
      .error e { w with output := w.output.settle } := by
    change newFile r.path r.type r.method w = _
    unfold newFile
    rw [Action.bind_of_ok (checkIntact_of_intact willing.intact)]
    exact Action.bind_of_error (onOutput_of_error unstarted)
  exact ⟨e, Action.perform_bind_of_error failed⟩

theorem readAll_sound (source : Source) (sound : source.fault = none) :
    Source.readAll source = .ok source.rest (exhausted source) := by
  fun_induction Source.readAll source with
  | case1 source err later found =>
    cases held : source.rest with
    | nil => cases (read_exhausted sound held).symm.trans found
    | cons b rest => cases (read_piece held).symm.trans found
  | case2 source later found =>
    cases held : source.rest with
    | nil =>
      cases (read_exhausted sound held).symm.trans found
      rfl
    | cons b rest => cases (read_piece held).symm.trans found
  | case3 source b part later found err final failed ih =>
    cases held : source.rest with
    | nil => cases (read_exhausted sound held).symm.trans found
    | cons c rest =>
      cases (read_piece held).symm.trans found
      cases (ih sound).symm.trans failed
  | case4 source b part later found more final rest ih =>
    have whole := (rest_of_read found).1
    cases held : source.rest with
    | nil => cases (read_exhausted sound held).symm.trans found
    | cons c others =>
      have same := (read_piece held).symm.trans found
      simp only [EStateM.Result.ok.injEq] at same
      obtain ⟨_, rfl⟩ := same
      cases (ih sound).symm.trans rest
      rw [exhausted_piece held]
      exact congrArg (EStateM.Result.ok · (exhausted source)) (whole.symm.trans held)

theorem content_of_sound {r : Resource} {source : Source} (opens : r.source = .ok source)
    (sound : source.Sound) : r.content = .ok source.rest := by
  have closes : (exhausted source).close = .ok () := by
    unfold Source.close
    rw [if_neg]
    exact fun both => both.2 sound.2
  unfold Resource.content
  rw [bind_of_eq_ok opens, Action.perform_of_ok (readAll_sound source sound.1)]
  exact bind_of_eq_ok closes _

theorem sound_of_ending {source : Source} (ends : ending source = .ok ())
    (sized : source.sized = .ok ()) : source.Sound := by
  constructor
  · unfold ending at ends
    split at ends
    · cases ends
    · assumption
  · unfold Source.sized at sized
    split at sized
    · assumption
    · cases sized

theorem content_of_copyTo {σ : Type} [Sink σ] {r : Resource} {s : σ}
    (reported : ((r.copyTo : Action σ Unit).perform s).1 = .ok ()) :
    r.content = .ok (copied r) := by
  cases opened : Sink.newFile r.path r.type r.method s with
  | error e s₁ =>
    rw [Action.perform_of_error (copyTo_refused opened)] at reported
    cases reported
  | ok draft s₁ =>
    cases found : r.source with
    | error e =>
      rw [Action.perform_of_error (copyTo_unopened opened found)] at reported
      cases reported
    | ok source =>
      cases poured : source.pour draft s₁ with
      | error e s₂ =>
        rw [Action.perform_of_error (copyTo_broken opened found poured)] at reported
        cases reported
      | ok whole s₂ =>
        rw [copyTo_filled opened found poured] at reported
        obtain ⟨_, _, _, rest⟩ := Action.bind_ok poured
        obtain ⟨_, _, ends, _⟩ := Action.bind_ok rest
        have sized : source.sized = .ok () := by
          cases size : source.sized with
          | error e =>
            rw [size] at reported
            cases reported
          | ok => rfl
        have sound := sound_of_ending (Action.eq_of_ofResult ends).2 sized
        rw [content_of_sound found sound, copied, found]

theorem encrypt_of_willing (willing : w.Willing) (cipher : Cipher) {r : Resource}
    (sound : r.Sound) (fresh : r.path ∉ w.output.names) : ∃ (plain : Bytes) (draft : Draft),
      draft.path = r.path ∧
      ((Step.encrypt cipher r).run : Action (Writer α) Unit).perform w =
        (mark (markOf cipher r)).perform { w with
          output := w.output.opened
            { name := r.path, method := .stored, content := cipher.encrypt plain }
          ledger := Ledger.commit draft w.ledger } := by
  obtain ⟨source, opens, whole⟩ := sound
  have reads := content_of_sound opens whole
  let opened : Draft :=
    { path := r.path, type := r.type, method := .stored, plaintextDeflated := r.compressFirst }
  let draft := { opened with
    written := opened.written + (cipher.encrypt source.rest).length }
  have filled : Sink.guarded opened (Sink.append opened (cipher.encrypt source.rest) :
      Action (Writer α) Draft) (w.writing r.path .stored []) =
      .ok draft (w.writing r.path .stored (cipher.encrypt source.rest)) :=
    Action.onFault_of_ok (append_of_willing willing { name := r.path, method := .stored } opened _)
  have later : (w.writing r.path .stored (cipher.encrypt source.rest)).Willing :=
    willing.opened _ w.ledger
  have written : (encryptedEntry cipher r source.rest : Action (Writer α) Unit) w =
      .ok () { w.writing r.path .stored (cipher.encrypt source.rest) with
        ledger := Ledger.commit draft w.ledger } := by
    unfold encryptedEntry
    rw [Action.bind_of_ok (newFile_of_willing willing r.type .stored fresh),
      Action.bind_of_ok filled]
    exact commit_of_willing later draft
  refine ⟨source.rest, draft, rfl, ?_⟩
  rw [run_encrypt, Action.perform_bind_of_ok (Action.ofResult_of_ok reads),
    Action.perform_bind_of_ok written]
  rfl

/-- One copy of a sound resource succeeds if and only if its path is not taken yet. It is taken
then, and nothing else has changed of the names. -/
theorem copy_iff_of_willing (willing : w.Willing) {r : Resource} (sound : r.Sound) :
    (((Step.copy r).run.perform w).1 = .ok () ↔ r.path ∉ w.output.names) ∧
      ((Step.copy r).run.perform w).2.Willing ∧
      ∀ name, name ∈ ((Step.copy r).run.perform w).2.output.names ↔
        name ∈ w.output.names ∨ name = r.path := by
  by_cases taken : r.path ∈ w.output.names
  · obtain ⟨e, ran⟩ := copy_of_repeated willing taken
    rw [ran]
    refine ⟨⟨nofun, fun fresh => absurd taken fresh⟩, willing.settled, fun name => ?_⟩
    have same : w.output.settle.names = w.output.names := by simp [Output.names]
    rw [same]
    exact ⟨.inl, fun given => given.elim id fun same => same ▸ taken⟩
  · obtain ⟨draft, ran⟩ := copy_of_willing willing sound taken
    rw [ran]
    refine ⟨⟨fun _ => taken, fun _ => rfl⟩, willing.opened _ _, fun name => ?_⟩
    rw [Output.names_opened, List.mem_append, List.mem_singleton]

/-- Copies of sound resources all succeed if and only if no path among them is repeated or taken.
Whether they do or not, their paths are taken behind them. -/
theorem copies_iff_of_willing {order : List Resource} (sound : ∀ r ∈ order, r.Sound)
    (willing : w.Willing) :
    ((∀ outcome ∈ (Step.runAll (order.map .copy) w).1, outcome = .ok ()) ↔
        (order.map Resource.path).Nodup ∧ ∀ r ∈ order, r.path ∉ w.output.names) ∧
      (w.behindCopies order).Willing ∧
      ∀ name, name ∈ (w.behindCopies order).output.names ↔
        name ∈ w.output.names ∨ name ∈ order.map Resource.path := by
  unfold behindCopies
  induction order generalizing w with
  | nil => exact ⟨by simp [Step.runAll], willing, fun name => by simp [Step.runAll]⟩
  | cons r order ih =>
    obtain ⟨here, others⟩ := List.forall_mem_cons.mp sound
    obtain ⟨first, willing, names⟩ := copy_iff_of_willing willing here
    obtain ⟨rest, behind, all⟩ := ih others willing
    rw [List.map_cons, outcomes_cons, runAll_cons]
    refine ⟨?_, behind, fun name => ?_⟩
    · rw [List.forall_mem_cons, first, rest, List.map_cons, List.nodup_cons, List.forall_mem_cons]
      -- What the first copy takes is refused to the others, as what was taken before is.
      have apart : (∀ s ∈ order, s.path ∉ ((Step.copy r).run.perform w).2.output.names) ↔
          (∀ s ∈ order, s.path ∉ w.output.names) ∧ r.path ∉ order.map Resource.path := by
        simp only [names, not_or, List.mem_map, not_exists, not_and, forall_and]
      rw [apart]
      exact ⟨fun ⟨fresh, distinct, news, new⟩ => ⟨⟨new, distinct⟩, fresh, news⟩,
        fun ⟨⟨new, distinct⟩, fresh, news⟩ => ⟨fresh, distinct, news, new⟩⟩
    · rw [all, names, List.map_cons, List.mem_cons, or_assoc]

theorem copies_of_willing {order : List Resource} (sound : ∀ r ∈ order, r.Sound)
    (distinct : (order.map Resource.path).Nodup) (willing : w.Willing)
    (fresh : ∀ r ∈ order, r.path ∉ w.output.names) :
    (∀ outcome ∈ (Step.runAll (order.map .copy) w).1, outcome = .ok ()) ∧
      (w.behindCopies order).Willing := by
  obtain ⟨reported, later, _⟩ := copies_iff_of_willing sound willing
  exact ⟨reported.mpr ⟨distinct, fresh⟩, later⟩

/-- A writer that is willing is closed with success if and only if the place of its document is not
taken. -/
theorem closed_iff_of_willing (willing : w.Willing) :
    (close w).outcome = .ok () ↔
      ∀ d ∈ Ledger.document? w.ledger, d.location ∉ w.output.names := by
  constructor
  · intro closed d given
    obtain ⟨w', o, written, _⟩ := close_ok closed
    have document := (writeDocument_ok written).2
    rw [Option.mem_def.mp given] at document
    exact document.1
  · intro apart
    have got : (get : Action (Writer α) (Writer α)) w = .ok w w := rfl
    have documented : ∃ w' : Writer α, (writeDocument : Action (Writer α) Unit) w = .ok () w' ∧
        w'.Willing := by
      unfold writeDocument
      rw [Action.bind_of_ok (checkIntact_of_intact willing.intact), Action.bind_of_ok got]
      cases given : Ledger.document? w.ledger with
      | none => exact ⟨w, rfl, willing⟩
      | some d =>
        have filled := Output.filled_of_taken willing.takes willing.flushes .deflated d.content
          d.flushed (apart d given)
        exact ⟨_, onOutput_of_ok filled, willing.opened _ w.ledger⟩
    obtain ⟨w', ran, later⟩ := documented
    unfold close
    rw [Action.perform_of_ok ran]
    simp only [Action.perform_of_ok (Output.finish_of_taken later.takes)]
    rfl

theorem close_of_willing (willing : w.Willing) {archive : Archive}
    (slots : w.output.settle.slots = archive.map .member)
    (apart : ∀ d ∈ Ledger.document? w.ledger, d.location ∉ archive.map Member.name) :
    (close w).outcome = .ok () := by
  rw [closed_iff_of_willing willing, Output.names_of_slots slots]
  exact apart

/-- Sound resources of different paths are all copied to a device that refuses nothing, if none of
these paths and no place of a document is taken. -/
theorem copiesAll_of_willing {resources order : List Resource} {archive : Archive}
    (whole : order.Perm resources) (sound : ∀ r ∈ order, r.Sound)
    (distinct : (order.map Resource.path).Nodup) (willing : w.Willing)
    (slots : w.output.settle.slots = archive.map .member)
    (fresh : ∀ r ∈ order, r.path ∉ archive.map Member.name)
    (apart : ∀ drafts, ∀ d ∈ Ledger.document? (committed drafts w.ledger),
      d.location ∉ (archive ++ order.map copyOf).map Member.name) :
    w.CopiesAll resources order := by
  have names := Output.names_of_slots slots
  obtain ⟨reported, later⟩ := copies_of_willing sound distinct willing (names ▸ fresh)
  refine ⟨whole, reported, ?_⟩
  rcases copies_ok order slots reported with doomed | ⟨drafts, _, rest, _, ledger⟩
  · exact absurd doomed later.not_doomed
  · exact close_of_willing later rest (by rw [ledger]; exact apart drafts)

end Writer
end Bindery
