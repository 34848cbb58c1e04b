import Bindery.Proofs.Encryption.Refusal
import Bindery.Publication.Reader

/-! Refusals. Whatever a manifest holds, a publication is read from it or it is refused as malformed;
there is no other way to fail. -/
namespace Bindery

open Encryption (FormatOnly formatOnly_ok formatOnly_fault formatOnly_bind)
open Json (Members Value)

theorem formatOnly_malformed {α : Type} (reason : String) :
    FormatOnly (malformed reason : Result α) :=
  formatOnly_fault _

theorem formatOnly_mapM {α β : Type} {read : α → Result β} (each : ∀ a, FormatOnly (read a))
    (items : List α) : FormatOnly (items.mapM read) := by
  induction items with
  | nil => exact formatOnly_ok _
  | cons item items ih =>
    rw [List.mapM_cons]
    exact formatOnly_bind (each item) fun _ => formatOnly_bind ih fun _ => formatOnly_ok _

theorem formatOnly_option_mapM {α β : Type} {read : α → Result β}
    (each : ∀ a, FormatOnly (read a)) (found : Option α) : FormatOnly (found.mapM read) := by
  cases found with
  | none => exact formatOnly_ok _
  | some a => exact formatOnly_bind (each a) fun _ => formatOnly_ok _

/-! ## Members -/

theorem formatOnly_known (name : String) (members : Members) : FormatOnly (known name members) := by
  unfold known
  split
  · exact formatOnly_ok _
  · exact formatOnly_ok _
  · exact formatOnly_malformed _

theorem formatOnly_knownOption (name : String) (members : Members) :
    FormatOnly (knownOption name members) := by
  refine formatOnly_bind (formatOnly_known name members) fun found => ?_
  split <;> exact formatOnly_ok _

theorem formatOnly_membersOf (what : String) (v : Value) : FormatOnly (membersOf what v) := by
  cases v with
  | object members => exact formatOnly_ok _
  | _ => exact formatOnly_malformed _

theorem formatOnly_textOf (what : String) (v : Value) : FormatOnly (textOf what v) := by
  cases v with
  | string s => exact formatOnly_ok _
  | _ => exact formatOnly_malformed _

theorem formatOnly_requiredText (name : String) (members : Members) :
    FormatOnly (requiredText name members) := by
  refine formatOnly_bind (formatOnly_known name members) fun found => ?_
  cases found with
  | some v => exact formatOnly_textOf name v
  | none => exact formatOnly_malformed _

/-! ## The parts of a publication -/

theorem Protection.formatOnly (v : Value) : FormatOnly (Protection.ofValue v) :=
  formatOnly_bind (formatOnly_membersOf _ v) fun members =>
    formatOnly_bind (formatOnly_requiredText "scheme" members) fun _ =>
    formatOnly_bind (formatOnly_requiredText "profile" members) fun _ =>
    formatOnly_bind (formatOnly_requiredText "algorithm" members) fun _ => formatOnly_ok _

theorem Properties.formatOnly (v : Value) : FormatOnly (Properties.ofValue v) :=
  formatOnly_bind (formatOnly_membersOf _ v) fun members =>
    formatOnly_bind (formatOnly_knownOption "encrypted" members) fun _ =>
    formatOnly_bind (formatOnly_option_mapM Protection.formatOnly _) fun _ => formatOnly_ok _

theorem Link.formatOnly (v : Value) : FormatOnly (Link.ofValue v) :=
  formatOnly_bind (formatOnly_membersOf _ v) fun members =>
    formatOnly_bind (formatOnly_requiredText "href" members) fun _ =>
    formatOnly_bind (formatOnly_known "type" members) fun _ =>
    formatOnly_bind (formatOnly_option_mapM (formatOnly_textOf "type") _) fun _ =>
    formatOnly_bind (formatOnly_knownOption "properties" members) fun _ =>
    formatOnly_bind (formatOnly_option_mapM Properties.formatOnly _) fun _ => formatOnly_ok _

theorem formatOnly_linksOf (name : String) (members : Members) :
    FormatOnly (linksOf name members) := by
  refine formatOnly_bind (formatOnly_known name members) fun found => ?_
  split
  · exact formatOnly_ok _
  · exact formatOnly_mapM Link.formatOnly _
  · exact formatOnly_malformed _

theorem Title.formatOnly (v : Value) : FormatOnly (Title.ofValue v) := by
  cases v with
  | string text => exact formatOnly_ok _
  | object members =>
    refine formatOnly_bind (formatOnly_mapM (fun member => ?_) members) fun _ => formatOnly_ok _
    exact formatOnly_bind (formatOnly_textOf _ _) fun _ => formatOnly_ok _
  | _ => exact formatOnly_malformed _

theorem Metadata.formatOnly (v : Value) : FormatOnly (Metadata.ofValue v) :=
  formatOnly_bind (formatOnly_membersOf _ v) fun members =>
    formatOnly_bind (formatOnly_knownOption "title" members) fun _ =>
    formatOnly_bind (formatOnly_option_mapM Title.formatOnly _) fun _ => formatOnly_ok _

namespace Publication

theorem formatOnly (v : Value) : FormatOnly (ofValue v) :=
  formatOnly_bind (formatOnly_membersOf _ v) fun members =>
    formatOnly_bind (formatOnly_knownOption "@context" members) fun _ =>
    formatOnly_bind (formatOnly_known "metadata" members) fun _ =>
    formatOnly_bind (formatOnly_option_mapM Metadata.formatOnly _) fun _ =>
    formatOnly_bind (formatOnly_linksOf "readingOrder" members) fun _ =>
    formatOnly_bind (formatOnly_linksOf "resources" members) fun _ => formatOnly_ok _

theorem formatOnly_readBytes (bytes : Bytes) : FormatOnly (readBytes bytes) := by
  unfold readBytes
  split
  · unfold read
    split
    · exact formatOnly _
    · exact formatOnly_malformed _
  · exact formatOnly_malformed _

end Publication
end Bindery
