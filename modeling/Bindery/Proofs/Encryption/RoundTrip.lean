import Bindery.Proofs.Encryption.Outline
import Bindery.Proofs.Text.Utf8

/-! Written manifests are read back. The text is scanned and its events are read record by record;
the bytes of the text announce UTF-8, and so they are decoded to the text first. -/
namespace Bindery.Encryption

open Xml

/-! ## The text -/

theorem inner_records (manifest : Manifest) :
    Outline.Inner (manifest.flatMap Record.outline) :=
  Outline.Inner.flatMap manifest _ fun r _ => inner_outline r

theorem scan_declaration (rest : List Char) :
    scan (Manifest.declaration.toList ++ rest) = scanFrom (.content []) [] rest := by
  rfl

theorem scan_declaration_line (rest : List Char) :
    scan (Manifest.declaration.toList ++ ['\n'] ++ rest) = scanFrom (.content []) [] rest := by
  rw [List.append_assoc, scan_declaration, scanFrom_blanks [] _ _ isXmlBlank_lineBreak]

theorem scan_render (manifest : Manifest) (plain : (Manifest.outline manifest).Plain) :
    scan manifest.render.toList = ((Manifest.outline manifest).tokens, none) := by
  have form : manifest.render.toList =
      Manifest.declaration.toList ++ ['\n'] ++ (Manifest.outline manifest).render.toList := by
    simp [Manifest.render]
  rw [form, scan_declaration_line, scanFrom_outline _ [] plain]
  rfl

theorem outline_nil : Manifest.outline [] = Outline.leaf "encryption" Manifest.rootValues := rfl

theorem outline_cons (r : Record) (manifest : Manifest) :
    Manifest.outline (r :: manifest) = Outline.nest "encryption" Manifest.rootValues
      ((r :: manifest).flatMap Record.outline) := rfl

theorem plain_outline (manifest : Manifest) : (Manifest.outline manifest).Plain := by
  have plainName : PlainName "encryption" := by decide
  cases manifest with
  | nil =>
    intro line member
    rw [outline_nil] at member
    obtain rfl := List.mem_singleton.mp member
    exact ⟨plainName, plain_rootValues⟩
  | cons r manifest =>
    rw [outline_cons]
    exact Outline.plain_nest plainName plain_rootValues (inner_records (r :: manifest)).plain

theorem events_render (manifest : Manifest) :
    Xml.events manifest.render = ((Manifest.outline manifest).events rootScope, none) := by
  rw [Xml.events, scan_render manifest (plain_outline manifest)]
  cases manifest with
  | nil =>
    rw [outline_nil]
    exact eventsFrom_root_leaf enter_root
  | cons r manifest =>
    rw [outline_cons]
    exact eventsFrom_root enter_root (inner_records (r :: manifest))

theorem foldlM_outline (manifest : Manifest) :
    ((Manifest.outline manifest).events rootScope).foldlM Progress.step {} =
      .ok ⟨.between, manifest.reverse⟩ := by
  have start : Progress.step {} (rootScope.start (tagOf "encryption" Manifest.rootValues)) =
      .ok ⟨.between, []⟩ := by
    simp [Scope.start, tagOf, resolve_root, Progress.step]
  cases manifest with
  | nil =>
    change List.foldlM Progress.step {} [rootScope.start (tagOf "encryption" Manifest.rootValues),
      Event.stop] = _
    rw [List.foldlM_cons, start]
    rfl
  | cons r manifest =>
    rw [outline_cons, Outline.events_nest, List.cons_append, List.foldlM_cons, start]
    change List.foldlM Progress.step _ (_ ++ [Event.stop]) = _
    rw [List.foldlM_append, foldlM_records, List.append_nil]
    rfl

theorem read_render (manifest : Manifest) : Manifest.read manifest.render = .ok manifest := by
  simp only [Manifest.read, events_render, foldlM_outline, bind, Except.bind, Progress.finish,
    List.reverse_reverse]

/-! ## The bytes -/

def declarationHead : String := "<?xml version=\"1.0\" encoding=\"UTF-8\""

theorem resolve_declaration (rest : Bytes) :
    Charset.resolve (utf8Bytes Manifest.declaration ++ rest) = .ok (.utf8, 0) := by
  have bytes : utf8Bytes Manifest.declaration = [60, 63, 120, 109, 108, 32, 118, 101, 114, 115,
      105, 111, 110, 61, 34, 49, 46, 48, 34, 32, 101, 110, 99, 111, 100, 105, 110, 103, 61, 34,
      85, 84, 70, 45, 56, 34, 63, 62] := by
    decide
  have unmarked : Charset.ofMark? (utf8Bytes Manifest.declaration ++ rest) = none := by
    rw [bytes]
    rfl
  have declared : Charset.declared? (utf8Bytes Manifest.declaration ++ rest) = some "UTF-8" := by
    have begins : (utf8Bytes "<?xml").isPrefixOf (utf8Bytes Manifest.declaration ++ rest) =
        true := by
      rw [bytes]
      rfl
    have parts : cut? (utf8Bytes "?>") (utf8Bytes Manifest.declaration ++ rest) =
        some (utf8Bytes declarationHead, rest) := by
      rw [bytes]
      rfl
    have label : Charset.declaredIn? declarationHead.toList = some "UTF-8" := by decide
    rw [Charset.declared?, if_pos begins, parts]
    simp only [bind, Option.bind, utf8Text?_utf8Bytes, label]
  have known : Charset.ofLabel? "UTF-8" = some .utf8 := by decide
  simp only [Charset.resolve, unmarked, declared, known, Charset.ofDeclared]

theorem decodeDocument_render (manifest : Manifest) :
    Charset.decodeDocument (utf8Bytes manifest.render) = .ok manifest.render := by
  have announced : Charset.resolve (utf8Bytes manifest.render) = .ok (.utf8, 0) := by
    rw [Manifest.render, String.append_assoc, utf8Bytes_append]
    exact resolve_declaration _
  simp only [Charset.decodeDocument, announced, bind, Except.bind, List.drop_zero, Charset.decode?,
    utf8Text?_utf8Bytes]

theorem readDocument_render (manifest : Manifest) :
    Manifest.readDocument (utf8Bytes manifest.render) = .ok manifest := by
  simp only [Manifest.readDocument, decodeDocument_render, bind, Except.bind, read_render]

/-- Reading undoes writing: from the text of a manifest, from the bytes of that text and from a
stream that yields them, the same records come back. -/
theorem manifest_round_trip (manifest : Manifest) :
    Manifest.read manifest.render = .ok manifest ∧
      Manifest.readDocument (utf8Bytes manifest.render) = .ok manifest ∧
      Manifest.readFrom (utf8Bytes manifest.render) none = .ok manifest := by
  have document := readDocument_render manifest
  exact ⟨read_render manifest, document, document⟩

end Bindery.Encryption
