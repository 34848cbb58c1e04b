import Bindery.Proofs.Encryption.Skipping
import Bindery.Proofs.Xml.Alike

/-! What the reader sees of a document. It asks tags for attributes without a prefix only, so that it
goes the same way through documents that are alike, up to what a failure says. -/
namespace Bindery.Encryption

open Xml (Event Tag)

section Tags

variable {first second : Tag} (alike : first.Alike second)
include alike

theorem ofTag_alike : (Record.ofTag first).toOption = (Record.ofTag second).toOption := by
  have id := alike.lookup "Id" (by decide)
  have type := alike.lookup "Type" (by decide)
  have mimeType := alike.lookup "MimeType" (by decide)
  have encoding := alike.lookup "Encoding" (by decide)
  simp only [Record.ofTag, toOption_bind]
  cases one : (Xml.values first.attributes).toOption with
  | none =>
    cases other : (Xml.values second.attributes).toOption with
    | none => rfl
    | some values => simp [one, other] at id
  | some values =>
    cases other : (Xml.values second.attributes).toOption with
    | none => simp [one, other] at id
    | some values' =>
      simp only [one, other, Option.map_some, Option.some.injEq] at id type mimeType encoding
      simp [id, type, mimeType, encoding]

theorem compression_alike :
    (Compression.ofTag first).toOption = (Compression.ofTag second).toOption := by
  have method := alike.value "Method" (by decide)
  have length := alike.value "OriginalLength" (by decide)
  simp only [Compression.ofTag, toOption_bind, method, length]

theorem enter_alike (r : Record) (path : List Part) (space : Option String) (label : String) :
    (r.enter path space label first).toOption = (r.enter path space label second).toOption := by
  have compression := compression_alike alike
  have algorithm := alike.value "Algorithm" (by decide)
  have keyName := alike.value "KeyName" (by decide)
  have uri := alike.value "URI" (by decide)
  have type := alike.value "Type" (by decide)
  cases path with
  | nil =>
    simp only [Record.enter, apply_ite Except.toOption, toOption_bind, algorithm, keyName]
  | cons part path =>
    cases part with
    | keyInfo => simp only [Record.enter, apply_ite Except.toOption, toOption_bind, uri, type]
    | cipherData => simp only [Record.enter, apply_ite Except.toOption, toOption_bind, uri]
    | property => simp only [Record.enter, apply_ite Except.toOption, toOption_bind, compression]
    | _ => rfl

end Tags

theorem step_alike {first second : Event} (alike : first.Alike second) (p : Progress) :
    (p.step first).toOption = (p.step second).toOption := by
  cases alike with
  | stop => rfl
  | text content => rfl
  | @start space label first second tags =>
    obtain ⟨position, records⟩ := p
    cases position with
    | start =>
      simp only [Progress.step]
      split <;> rfl
    | between =>
      simp only [Progress.step, apply_ite Except.toOption, toOption_bind, ofTag_alike tags]
    | inside r path => simp only [Progress.step, toOption_bind, enter_alike tags]

theorem after_alike {first second : List Event} (alike : List.Forall₂ Event.Alike first second)
    (p : Progress) : (p.after first).toOption = (p.after second).toOption := by
  induction alike generalizing p with
  | nil => rfl
  | cons event _ ih =>
    rw [after_cons, after_cons, toOption_bind, toOption_bind, step_alike event]
    exact congrArg _ (funext ih)

theorem read_alike {first second : String}
    (alike : List.Forall₂ Event.Alike (Xml.events first).1 (Xml.events second).1)
    (breaks : (Xml.events first).2.isSome = (Xml.events second).2.isSome) :
    (Manifest.read first).toOption = (Manifest.read second).toOption := by
  rw [read_eq_conclude, read_eq_conclude, Progress.conclude, Progress.conclude, toOption_bind,
    toOption_bind, after_alike alike]
  refine congrArg _ (funext fun p => ?_)
  cases one : (Xml.events first).2 with
  | none =>
    rw [one] at breaks
    rw [Option.isSome_eq_false_iff.mp breaks.symm |> Option.isNone_iff_eq_none.mp]
  | some fault =>
    rw [one] at breaks
    obtain ⟨fault', other⟩ := Option.isSome_iff_exists.mp breaks.symm
    rw [other]
    rfl

theorem read_renamed (ρ : Xml.Renaming) (text : String) :
    (Manifest.read (ρ.text text)).toOption = (Manifest.read text).toOption :=
  (read_alike (Xml.Renaming.alike_text ρ text) (Xml.Renaming.events_text ρ text).2.symm).symm

end Bindery.Encryption
