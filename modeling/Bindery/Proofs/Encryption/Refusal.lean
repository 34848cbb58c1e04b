import Bindery.Proofs.Encryption.Skipping

/-! Refusals. Whatever the text of a document is, it is read or refused as malformed: reading alone
has no other way to fail. -/
namespace Bindery.Encryption

open Xml (Event Tag)

/-- A failure, if there is one, says that the document is not in the form it should have. -/
def FormatOnly {α : Type} (result : Result α) : Prop :=
  ∀ e, result = .error e → ∃ fault, e = .format fault

theorem formatOnly_ok {α : Type} (a : α) : FormatOnly (.ok a) := fun _ failed => by cases failed

theorem formatOnly_fault {α : Type} (fault : FormatFault) :
    FormatOnly (.error (.format fault) : Result α) := by
  rintro _ ⟨⟩
  exact ⟨fault, rfl⟩

theorem formatOnly_bind {α β : Type} {first : Result α} {next : α → Result β}
    (before : FormatOnly first) (behind : ∀ a, FormatOnly (next a)) :
    FormatOnly (first >>= next) := by
  cases first with
  | error e => exact fun _ failed => before _ (by cases failed; rfl)
  | ok a => exact behind a

theorem formatOnly_ite {α : Type} {c : Prop} [Decidable c] {first second : Result α}
    (one : FormatOnly first) (other : FormatOnly second) :
    FormatOnly (if c then first else second) := by
  split
  · exact one
  · exact other

theorem formatOnly_value (a : Xml.Attribute) : FormatOnly a.value := by
  unfold Xml.Attribute.value
  split
  · exact formatOnly_ok _
  · exact formatOnly_fault _

theorem formatOnly_valuesFrom (held : List (List Char)) (fault : Option AttributeFault)
    (found : List Xml.Attribute) : FormatOnly (Xml.valuesFrom held fault found) := by
  induction found generalizing held with
  | nil =>
    cases fault with
    | none => exact formatOnly_ok _
    | some fault => exact formatOnly_fault _
  | cons a found ih =>
    exact formatOnly_ite (formatOnly_fault _) <| formatOnly_bind (formatOnly_value a) fun _ =>
      formatOnly_bind (ih _) fun _ => formatOnly_ok _

theorem formatOnly_valueFrom (name : List Char) (held : List (List Char))
    (fault : Option AttributeFault) (found : List Xml.Attribute) :
    FormatOnly (Xml.valueFrom? name held fault found) := by
  induction found generalizing held with
  | nil =>
    cases fault with
    | none => exact formatOnly_ok _
    | some fault => exact formatOnly_fault _
  | cons a found ih =>
    refine formatOnly_ite (formatOnly_fault _) (formatOnly_ite ?_ (ih _))
    have value := formatOnly_value a
    cases read : a.value with
    | error e => exact fun _ failed => value _ (by cases failed; exact read)
    | ok text => exact formatOnly_ok _

theorem formatOnly_readNumber (what : String) (limit : Nat) (text : List Char) :
    FormatOnly (readNumber what limit text) := by
  unfold readNumber
  split
  · exact formatOnly_ok _
  · exact formatOnly_fault _

theorem formatOnly_enter (r : Record) (path : List Part) (space : Option String) (label : String)
    (tag : Tag) : FormatOnly (r.enter path space label tag) := by
  have value (name : String) : FormatOnly (Xml.value? tag.attributes name) :=
    formatOnly_valueFrom _ _ _ _
  have skipped {part : Part} {r : Record} : FormatOnly (.ok (r, part)) := formatOnly_ok _
  have compression : FormatOnly (Compression.ofTag tag) :=
    formatOnly_bind (value _) fun _ => formatOnly_bind (value _) fun _ =>
      formatOnly_bind (formatOnly_readNumber _ _ _) fun _ =>
      formatOnly_bind (formatOnly_readNumber _ _ _) fun _ => formatOnly_ok _
  cases path with
  | nil =>
    exact formatOnly_ite (formatOnly_bind (value _) fun _ => skipped) <|
      formatOnly_ite (formatOnly_bind (value _) fun _ => skipped) <|
      formatOnly_ite skipped <| formatOnly_ite skipped skipped
  | cons part path =>
    cases part with
    | method => exact formatOnly_ite skipped skipped
    | keyInfo =>
      exact formatOnly_ite (formatOnly_bind (value _) fun _ =>
        formatOnly_bind (value _) fun _ => skipped) skipped
    | cipherData => exact formatOnly_ite (formatOnly_bind (value _) fun _ => skipped) skipped
    | properties => exact formatOnly_ite skipped skipped
    | property => exact formatOnly_ite (formatOnly_bind compression fun _ => skipped) skipped
    | _ => exact skipped

theorem formatOnly_step (p : Progress) (event : Event) : FormatOnly (p.step event) := by
  obtain ⟨position, records⟩ := p
  cases event with
  | start space label tag =>
    cases position with
    | start => exact formatOnly_ite (formatOnly_ok _) (formatOnly_fault _)
    | between =>
      refine formatOnly_ite (formatOnly_bind ?_ fun _ => formatOnly_ok _) (formatOnly_ok _)
      exact formatOnly_bind (formatOnly_valuesFrom _ _ _) fun _ => formatOnly_ok _
    | inside r path =>
      exact formatOnly_bind (formatOnly_enter r path space label tag) fun _ => formatOnly_ok _
  | stop =>
    cases position with
    | inside r path => cases path <;> exact formatOnly_ok _
    | _ => exact formatOnly_ok _
  | text content =>
    cases position with
    | inside r path =>
      cases path with
      | nil => exact formatOnly_ok _
      | cons part path =>
        cases part with
        | keySize => exact formatOnly_bind (formatOnly_readNumber _ _ _) fun _ => formatOnly_ok _
        | _ => exact formatOnly_ok _
    | _ => exact formatOnly_ok _

theorem formatOnly_after (p : Progress) (events : List Event) : FormatOnly (p.after events) := by
  induction events generalizing p with
  | nil => exact formatOnly_ok _
  | cons event events ih =>
    rw [after_cons]
    exact formatOnly_bind (formatOnly_step p event) ih

theorem formatOnly_read (text : String) : FormatOnly (Manifest.read text) := by
  rw [read_eq_conclude, Progress.conclude]
  refine formatOnly_bind (formatOnly_after _ _) fun p => ?_
  split
  · exact formatOnly_fault _
  · unfold Progress.finish
    split
    · exact formatOnly_fault _
    · exact formatOnly_fault _
    · exact formatOnly_ok _

end Bindery.Encryption
