import Bindery.Proofs.Action
import Bindery.Zip.Output

/-! What each operation on an archive under construction does. An output only grows: no slot is
taken back, and the device goes on refusing what it refuses. A slot without a whole header is
refused again by the directory, so that such an output is never brought to its end. -/
namespace Bindery.Zip

@[simp] theorem name_ofContent (name : String) (method : Method) (content : Bytes) :
    (Member.ofContent name method content).name = name := rfl

namespace Output

def names (o : Output) : List String := o.settle.slots.map Slot.name

def opened (o : Output) (e : Unsealed) : Output := { o.settle with current := some e }

/-- An output that has come about from `o`. -/
structure Extends (o o' : Output) : Prop where
  refused : o'.device.refused = o.device.refused
  refusesFlush : o'.device.refusesFlush = o.device.refusesFlush
  slots : o.slots <+: o'.slots

/-- An output with a slot without a whole header, whose name the device refuses. -/
def Broken (o : Output) : Prop :=
  ∃ name, .headless name ∈ o.slots ∧ o.device.refuses (utf8Bytes name) = true

theorem Extends.refl (o : Output) : Extends o o := ⟨rfl, rfl, List.prefix_rfl⟩

theorem Extends.trans {a b c : Output} (first : Extends a b) (second : Extends b c) :
    Extends a c :=
  ⟨second.refused.trans first.refused, second.refusesFlush.trans first.refusesFlush,
    first.slots.trans second.slots⟩

theorem Extends.refuses {o o' : Output} (grown : Extends o o') (bytes : Bytes) :
    o'.device.refuses bytes = o.device.refuses bytes := by
  simp only [Device.refuses, grown.refused]

theorem Extends.broken {o o' : Output} (grown : Extends o o') (broken : Broken o) :
    Broken o' := by
  obtain ⟨name, member, refused⟩ := broken
  exact ⟨name, grown.slots.subset member, (grown.refuses _).trans refused⟩

theorem extends_settle (o : Output) : Extends o o.settle := by
  cases current : o.current with
  | none => simp only [settle, current, Extends.refl]
  | some e => simpa only [settle, current] using ⟨rfl, rfl, List.prefix_append _ _⟩

@[simp] theorem settle_settle (o : Output) : o.settle.settle = o.settle := by
  cases current : o.current with
  | none => simp only [settle, current]
  | some e => simp only [settle, current]

theorem settle_settled (o : Output) (device : Device) :
    Output.settle { o.settle with device } = { o.settle with device } := by
  obtain ⟨_, slots, current⟩ := o
  cases current with
  | none => rfl
  | some e => rfl

@[simp] theorem settle_device (o : Output) : o.settle.device = o.device := by
  cases current : o.current with
  | none => simp only [settle, current]
  | some e => simp only [settle, current]

theorem extends_opened (o : Output) (e : Unsealed) : Extends o (o.opened e) :=
  ⟨(extends_settle o).refused, (extends_settle o).refusesFlush, (extends_settle o).slots⟩

@[simp] theorem slots_settle_opened (o : Output) (e : Unsealed) :
    (o.opened e).settle.slots =
      o.settle.slots ++ [.member (.ofContent e.name e.method e.content)] := by
  simp only [opened, settle]

theorem names_of_slots {o : Output} {archive : Archive}
    (slots : o.settle.slots = archive.map .member) : o.names = archive.map Member.name := by
  simp only [names, slots, List.map_map]
  rfl

theorem refuses_of_refused_none {o : Output} (nothing : o.device.refused = none) (bytes : Bytes) :
    o.device.refuses bytes = false := by
  simp only [Device.refuses, nothing]

/-! ## Single writes -/

theorem emit_of_taken {o : Output} {bytes : Bytes} (taken : o.device.refuses bytes = false) :
    emit bytes o = .ok () o := by
  simp [emit, Device.write, taken]

theorem emit_of_refused {o : Output} {bytes : Bytes} (refused : o.device.refuses bytes = true) :
    ∃ e device, emit bytes o = .error e { o with device } ∧
      device.refused = o.device.refused ∧ device.refusesFlush = o.device.refusesFlush := by
  refine ⟨.stream (.writeRefused (o.device.refusals + 1)),
    { o.device with refusals := o.device.refusals + 1 }, ?_, rfl, rfl⟩
  simp only [emit, Device.write, refused, if_true]

theorem emit_ok {o o' : Output} {bytes : Bytes} (written : emit bytes o = .ok () o') :
    o' = o ∧ o.device.refuses bytes = false := by
  cases refused : o.device.refuses bytes with
  | false =>
    rw [emit_of_taken refused] at written
    cases written
    exact ⟨rfl, rfl⟩
  | true =>
    obtain ⟨e, device, failed, _⟩ := emit_of_refused refused
    rw [failed] at written
    cases written

/-! ## Starting an entry -/

/-- How an entry is not started: its name is taken, or the device refuses the signature that comes
first, or it refuses the name. -/
inductive Unstarted (o : Output) (name : String) : Output → Prop where
  | taken : name ∈ o.names → Unstarted o name o.settle
  | unsigned {device : Device} : device.refused = o.device.refused →
      device.refusesFlush = o.device.refusesFlush → o.device.refuses localSignature = true →
      Unstarted o name { o.settle with device }
  | nameless {device : Device} : device.refused = o.device.refused →
      device.refusesFlush = o.device.refusesFlush → o.device.refuses (utf8Bytes name) = true →
      Unstarted o name { o.settle.push (.headless name) with device }

theorem any_slot_name (o : Output) (name : String) :
    o.settle.slots.any (·.name = name) = true ↔ name ∈ o.names := by
  simp [names]

theorem header_of_taken {o : Output} {name : String} (taken : name ∈ o.names) :
    ∃ e, header name o = .error e o.settle := by
  have settled : (modify settle : Action Output Unit) o = .ok PUnit.unit o.settle := rfl
  have got : (get : Action Output Output) o.settle = .ok o.settle o.settle := rfl
  refine ⟨.format (.archive "a name occurs twice"), ?_⟩
  unfold header
  rw [Action.bind_of_ok settled, Action.bind_of_ok got, if_pos ((any_slot_name o name).mpr taken)]
  rfl

theorem header_of_fresh {o : Output} {name : String} (fresh : name ∉ o.names) :
    header name o = (do
      emit localSignature
      (emit (utf8Bytes name)).onFault (push (.headless name)) : Action Output Unit) o.settle := by
  have settled : (modify settle : Action Output Unit) o = .ok PUnit.unit o.settle := rfl
  have got : (get : Action Output Output) o.settle = .ok o.settle o.settle := rfl
  unfold header
  rw [Action.bind_of_ok settled, Action.bind_of_ok got,
    if_neg (mt (any_slot_name o name).mp fresh)]

theorem header_cases (o : Output) (name : String) :
    (header name o = .ok () o.settle ∧ name ∉ o.names ∧
      o.device.refuses localSignature = false) ∨
    ∃ e o', header name o = .error e o' ∧ Unstarted o name o' := by
  by_cases taken : name ∈ o.names
  · obtain ⟨e, failed⟩ := header_of_taken taken
    exact .inr ⟨e, _, failed, .taken taken⟩
  rw [header_of_fresh taken]
  cases signature : o.device.refuses localSignature with
  | true =>
    have here : o.settle.device.refuses localSignature = true := by rwa [settle_device]
    obtain ⟨e, device, failed, refused, flush⟩ := emit_of_refused here
    rw [settle_device] at refused flush
    exact .inr ⟨e, _, Action.bind_of_error failed, .unsigned refused flush signature⟩
  | false =>
    have here : o.settle.device.refuses localSignature = false := by rwa [settle_device]
    rw [Action.bind_of_ok (emit_of_taken here)]
    cases named : o.device.refuses (utf8Bytes name) with
    | false =>
      have here : o.settle.device.refuses (utf8Bytes name) = false := by rwa [settle_device]
      exact .inl ⟨Action.onFault_of_ok (emit_of_taken here), taken, rfl⟩
    | true =>
      have here : o.settle.device.refuses (utf8Bytes name) = true := by rwa [settle_device]
      obtain ⟨e, device, failed, refused, flush⟩ := emit_of_refused here
      rw [settle_device] at refused flush
      exact .inr ⟨e, _, Action.onFault_of_error failed, .nameless refused flush named⟩

theorem Unstarted.extends {o o' : Output} {name : String} (unstarted : Unstarted o name o') :
    Extends o o' := by
  have settled := extends_settle o
  cases unstarted with
  | taken => exact settled
  | unsigned refused flush => exact ⟨refused, flush, settled.slots⟩
  | nameless refused flush =>
    exact ⟨refused, flush, settled.slots.trans (List.prefix_append _ _)⟩

theorem start_cases (o : Output) (name : String) (method : Method) :
    (start name method o = .ok () (o.opened { name, method }) ∧ name ∉ o.names ∧
      o.device.refuses localSignature = false) ∨
    ∃ e o', start name method o = .error e o' ∧ Unstarted o name o' := by
  unfold start
  rcases header_cases o name with ⟨written, fresh, signature⟩ | ⟨e, o', failed, unstarted⟩
  · rw [Action.bind_of_ok written]
    exact .inl ⟨rfl, fresh, signature⟩
  · exact .inr ⟨e, o', Action.bind_of_error failed, unstarted⟩

/-! ## Writing to an entry -/

theorem write_opened (o : Output) (e : Unsealed) (bytes : Bytes) :
    write bytes (o.opened e) = (do
      if e.method = .stored ∧ bytes ≠ [] then emit bytes
      modify fun o => { o with current := some { e with content := e.content ++ bytes } } :
        Action Output Unit) (o.opened e) := by
  have got : (get : Action Output Output) (o.opened e) = .ok (o.opened e) (o.opened e) := rfl
  unfold write
  rw [Action.bind_of_ok got]
  rfl

/-- What is written stands behind what the entry held, unless the device refuses it. -/
theorem write_cases (o : Output) (e : Unsealed) (bytes : Bytes) :
    write bytes (o.opened e) = .ok () (o.opened { e with content := e.content ++ bytes }) ∨
    ∃ err o', write bytes (o.opened e) = .error err o' ∧ Extends (o.opened e) o' ∧
      o.device.refuses bytes = true := by
  rw [write_opened]
  by_cases raw : e.method = .stored ∧ bytes ≠ []
  · rw [if_pos raw]
    have same : (o.opened e).device = o.device := settle_device o
    cases refused : o.device.refuses bytes with
    | false =>
      have here : (o.opened e).device.refuses bytes = false := by rwa [same]
      left
      rw [Action.bind_of_ok (emit_of_taken here)]
      rfl
    | true =>
      have here : (o.opened e).device.refuses bytes = true := by rwa [same]
      obtain ⟨err, device, failed, kept, flush⟩ := emit_of_refused here
      exact .inr ⟨err, _, Action.bind_of_error failed, ⟨kept, flush, List.prefix_rfl⟩, rfl⟩
  · rw [if_neg raw]
    exact .inl rfl

theorem flush_of_taken {o : Output} (taken : o.device.refusesFlush = false) :
    flush o = .ok () o := by
  have got : (get : Action Output Output) o = .ok o o := rfl
  unfold flush
  rw [Action.bind_of_ok got]
  simp only [Device.flush, taken]
  rfl

theorem flush_of_refused {o : Output} (refused : o.device.refusesFlush = true) :
    ∃ e, flush o = .error e o := by
  have got : (get : Action Output Output) o = .ok o o := rfl
  refine ⟨.stream .flushRefused, ?_⟩
  unfold flush
  rw [Action.bind_of_ok got]
  simp only [Device.flush, refused]
  rfl

theorem flush_ok {o o' : Output} (flushed : flush o = .ok () o') :
    o' = o ∧ o.device.refusesFlush = false := by
  cases refused : o.device.refusesFlush with
  | false =>
    rw [flush_of_taken refused] at flushed
    cases flushed
    exact ⟨rfl, rfl⟩
  | true =>
    obtain ⟨e, failed⟩ := flush_of_refused refused
    rw [failed] at flushed
    cases flushed

theorem filled_ok {o o' : Output} {name : String} {method : Method} {content : Bytes}
    {flushed : Bool}
    (filled : (do
      start name method
      write content
      if flushed then flush : Action Output Unit) o = .ok () o') :
    name ∉ o.names ∧ o.device.refuses localSignature = false ∧
      o' = o.opened { name, method, content } := by
  obtain ⟨_, first, started, rest⟩ := Action.bind_ok filled
  obtain ⟨_, second, written, last⟩ := Action.bind_ok rest
  rcases start_cases o name method with ⟨ran, fresh, signature⟩ | ⟨e, _, failed, _⟩
  · rw [ran] at started
    cases started
    rcases write_cases o { name, method } content with ran | ⟨e, _, failed, _⟩
    · rw [ran] at written
      cases written
      refine ⟨fresh, signature, ?_⟩
      cases flushed with
      | false =>
        cases last
        rfl
      | true => exact (flush_ok last).1
    · rw [failed] at written
      cases written
  · rw [failed] at started
    cases started

/-! ## Taking over members -/

theorem forM_emit_ok {parts : List Bytes} {o o' : Output}
    (written : (parts.forM emit : Action Output Unit) o = .ok () o') : o' = o := by
  induction parts with
  | nil =>
    cases written
    rfl
  | cons part parts ih =>
    have chain : (emit part >>= fun _ => parts.forM emit) o = .ok () o' := written
    obtain ⟨_, between, first, rest⟩ := Action.bind_ok chain
    obtain ⟨rfl, _⟩ := emit_ok first
    exact ih rest

theorem copyMember_ok {o o' : Output} {m : Member} (copied : copyMember m o = .ok () o') :
    m.name ∉ o.names ∧ o' = o.settle.push (.member { m with encrypted := false }) := by
  unfold copyMember at copied
  obtain ⟨_, first, begun, rest⟩ := Action.bind_ok copied
  rcases header_cases o m.name with ⟨ran, fresh, _⟩ | ⟨e, _, failed, _⟩
  · rw [ran] at begun
    cases begun
    refine ⟨fresh, ?_⟩
    by_cases stored : m.packing = .known .stored
    · rw [if_pos stored] at rest
      obtain ⟨_, second, moved, last⟩ := Action.bind_ok rest
      obtain rfl := forM_emit_ok moved
      cases last
      rfl
    · rw [if_neg stored] at rest
      cases rest
      rfl
  · rw [failed] at begun
    cases begun

/-! ## The end of an archive -/

theorem centralHeader_ok {o o' : Output} {slot : Slot}
    (written : centralHeader slot o = .ok () o') :
    o' = o ∧ o.device.refuses (utf8Bytes slot.name) = false := by
  obtain ⟨_, between, signature, name⟩ := Action.bind_ok written
  obtain ⟨rfl, _⟩ := emit_ok signature
  exact emit_ok name

theorem forM_centralHeader_ok {slots : List Slot} {o o' : Output}
    (written : (slots.forM centralHeader : Action Output Unit) o = .ok () o') :
    o' = o ∧ ∀ slot ∈ slots, o.device.refuses (utf8Bytes slot.name) = false := by
  induction slots with
  | nil =>
    cases written
    exact ⟨rfl, by simp⟩
  | cons slot slots ih =>
    have chain : (centralHeader slot >>= fun _ => slots.forM centralHeader) o = .ok () o' := written
    obtain ⟨_, between, first, rest⟩ := Action.bind_ok chain
    obtain ⟨rfl, taken⟩ := centralHeader_ok first
    obtain ⟨same, others⟩ := ih rest
    refine ⟨same, fun s member => ?_⟩
    rcases List.mem_cons.mp member with rfl | member
    · exact taken
    · exact others s member

/-- An output that was brought to its end has every entry settled, and is not broken. -/
theorem finish_ok {o o' : Output} (ended : finish o = .ok () o') :
    o' = o.settle ∧ ¬ Broken o := by
  have settled : (modify settle : Action Output Unit) o = .ok PUnit.unit o.settle := rfl
  have got : (get : Action Output Output) o.settle = .ok o.settle o.settle := rfl
  unfold finish at ended
  rw [Action.bind_of_ok settled, Action.bind_of_ok got] at ended
  obtain ⟨_, between, directory, last⟩ := Action.bind_ok ended
  obtain ⟨rfl, taken⟩ := forM_centralHeader_ok directory
  refine ⟨(emit_ok last).1, ?_⟩
  rintro broken
  obtain ⟨name, member, refused⟩ := (extends_settle o).broken broken
  have passes := taken _ member
  rw [Slot.name, refused] at passes
  cases passes

theorem members_of_slots {o : Output} {archive : Archive}
    (slots : o.slots = archive.map .member) : o.members? = some archive := by
  simp only [members?, slots]
  clear slots
  induction archive with
  | nil => rfl
  | cons m archive ih => simp [ih]

end Output
end Bindery.Zip
