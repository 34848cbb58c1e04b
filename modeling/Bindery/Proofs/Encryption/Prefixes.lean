import Bindery.Proofs.Encryption.Alike

/-! Prefixes of a manifest. The elements of a written manifest may take any prefixes if they declare
them where they use them, also those that stand for another space around them. What is read is the
manifest. -/
namespace Bindery.Encryption

open Xml

/-! ## Manifests under other prefixes -/

/-- How the elements in a manifest take their prefixes. The elements are counted as they begin. -/
structure Naming where
  /-- The prefix that an element takes, or none where it stands in the default space. -/
  label : Nat → Option (List Char)
  /-- Whether an element declares its prefix where this stands for its space already. -/
  again : Nat → Bool
  legal : ∀ n, ∀ p ∈ label n, IsPrefix p

def declarer : Option (List Char) → String
  | none => "xmlns"
  | some p => spell ("xmlns:".toList ++ p)

namespace Naming

variable (naming : Naming)

/-- The name of an element that is written as `given` under the prefixes of the root. -/
def name (n : Nat) (given : String) : String :=
  spell (joinName (naming.label n) (rootScope.resolve given).2.toList)

def Declares (n : Nat) (outer : Scope) (given : String) : Prop :=
  naming.again n ∨ outer.resolve (naming.name n given) ≠ rootScope.resolve given

instance (n : Nat) (outer : Scope) (given : String) : Decidable (naming.Declares n outer given) :=
  inferInstanceAs (Decidable (_ ∨ _))

def values (n : Nat) (outer : Scope) (given : String) (values : Values) : Values :=
  if naming.Declares n outer given then
    (declarer (naming.label n), (rootScope.resolve given).1) :: values
  else values

def tag (n : Nat) (outer : Scope) (given : String) (values : Values) : StartTag :=
  (naming.values n outer given values).startTag (naming.name n given)

def opened (n : Nat) (nest : Nest) (given : String) (values : Values) : Nest :=
  let t := naming.tag n nest.scope given values
  (spell t.name, t.scope nest.scope) :: nest

/-- The text of an outline, where `n` elements have begun and those of `nest` are open. -/
def text : Nat → Nest → Outline → List Char
  | _, _, [] => []
  | n, nest, line :: rest =>
    line.indent ++
      match line.piece with
      | .opening given values =>
        (naming.tag n nest.scope given values).opening ++
          '\n' :: text (n + 1) (naming.opened n nest given values) rest
      | .empty given values =>
        (naming.tag n nest.scope given values).empty ++ '\n' :: text (n + 1) nest rest
      | .text given content =>
        let t := naming.tag n nest.scope given []
        t.opening ++ ((escape content).toList ++ t.closing []) ++ '\n' :: text (n + 1) nest rest
      | .closing _ =>
        match nest with
        | [] => text n [] rest
        | (name, _) :: outer =>
          '<' :: '/' :: (name.toList ++ ['>']) ++ '\n' :: text n outer rest

def root : StartTag := Values.startTag [("xmlns", some containerSpace)] "encryption"

def body (manifest : Manifest) : List Char :=
  if manifest.isEmpty then root.empty ++ ['\n']
  else
    root.opening ++ '\n' :: (naming.text 0 [(spell root.name, root.scope [])]
      (Outline.indented 1 (manifest.flatMap Record.outline)) ++ (root.closing [] ++ ['\n']))

/-- A written manifest whose prefixes are declared in the elements and not in the root. -/
def render (manifest : Manifest) : String :=
  spell (Manifest.declaration.toList ++ '\n' :: naming.body manifest)

def shadowing : Naming where
  label _ := some ['p']
  again _ := false
  legal _ _ same := Option.some.inj same ▸ by decide

example : shadowing.text 1 [("p:KeyInfo", [⟨some ['p'], signatureSpace.toList⟩])]
      (Outline.leaf "enc:KeySize" []) =
    "<p:KeySize xmlns:p=\"http://www.w3.org/2001/04/xmlenc#\"/>\n".toList := by
  decide +kernel

end Naming

/-! ## Tags -/

/-- Names that stand for one of the three spaces under the prefixes of the root. -/
structure Prefixed (given space label : String) : Prop where
  resolved : rootScope.resolve given = (some space, label)
  space : space ∈ [encryptionSpace, signatureSpace, compressionSpace]
  label : IsName label.toList ∧ ':' ∉ label.toList

section Tags

variable {naming : Naming} {n : Nat} {outer : Scope} {given space label : String} {values : Values}

theorem name_prefixed (prefixed : Prefixed given space label) :
    naming.name n given = spell (joinName (naming.label n) label.toList) := by
  rw [Naming.name, prefixed.resolved]

theorem isName_joinName {label? : Option (List Char)} {rest : List Char}
    (legal : ∀ p ∈ label?, IsPrefix p) (named : IsName rest) : IsName (joinName label? rest) := by
  cases label? with
  | none => exact named
  | some p =>
    obtain ⟨⟨_, letters⟩, -⟩ := legal p rfl
    refine ⟨by simp [joinName], ?_⟩
    exact List.forall_mem_append.mpr ⟨letters, List.forall_mem_cons.mpr ⟨rfl, named.2⟩⟩

theorem splitName_joinName {label? : Option (List Char)} {rest : List Char}
    (legal : ∀ p ∈ label?, IsPrefix p) (absent : ':' ∉ rest) :
    splitName (joinName label? rest) = (label?, rest) := by
  cases label? with
  | none => exact splitName_none absent
  | some p => exact splitName_some rest (legal p rfl).2.1

theorem isName_declarer {label? : Option (List Char)} (legal : ∀ p ∈ label?, IsPrefix p) :
    IsName (declarer label?).toList := by
  cases label? with
  | none => decide
  | some p =>
    obtain ⟨⟨_, letters⟩, -⟩ := legal p rfl
    have front : IsName "xmlns:".toList := by decide
    simp only [declarer, spell, String.toList_ofList]
    exact ⟨by simp, List.forall_mem_append.mpr ⟨front.2, letters⟩⟩

theorem declarer_declares (label? : Option (List Char)) :
    "xmlns".toList.isPrefixOf (declarer label?).toList = true := by
  cases label? with
  | none => rfl
  | some p =>
    simp only [declarer, spell, String.toList_ofList]
    rfl

theorem not_ordinary_declarer (label? : Option (List Char)) : ¬ Ordinary (declarer label?) := by
  rintro ⟨colon, other⟩
  cases label? with
  | none => exact other rfl
  | some p => exact colon (by simp [declarer, spell])

theorem resolve_declared {label? : Option (List Char)} (legal : ∀ p ∈ label?, IsPrefix p)
    (named : space ≠ "") (absent : ':' ∉ label.toList) :
    Scope.resolve (⟨label?, space.toList⟩ :: outer) (spell (joinName label? label.toList)) =
      (some space, label) := by
  have covers : Binding.covers ⟨label?, space.toList⟩ label? = true := by
    cases label? with
    | none => rfl
    | some p =>
      have some : p ≠ [] := (legal p rfl).1.1
      simp [Binding.covers, some]
  have apart : label? ≠ some "xml".toList := by
    rintro rfl
    exact (legal _ rfl).2.2.1 rfl
  have solid : space.toList.isEmpty = false := by simpa using named
  simp only [Scope.resolve, spell, String.toList_ofList, splitName_joinName legal absent, apart,
    if_false, List.find?_cons, covers, solid]
  simp

theorem binding_declarer (label? : Option (List Char))
    (known : space ∈ [encryptionSpace, signatureSpace, compressionSpace]) :
    (Attribute.ofValue (declarer label?, space)).binding? = some ⟨label?, space.toList⟩ := by
  have raw : space.toList.flatMap escapeChar = space.toList :=
    escape_spaces space (List.mem_cons_of_mem _ known)
  cases label? with
  | none =>
    simp only [Attribute.ofValue, raw]
    rfl
  | some p =>
    simp only [Attribute.ofValue, raw, declarer, spell, String.toList_ofList]
    rfl

variable (prefixed : Prefixed given space label) (inner : values.Inner)
include prefixed

theorem values_of_declaring (declares : naming.Declares n outer given) :
    naming.values n outer given values = (declarer (naming.label n), some space) :: values := by
  rw [Naming.values, if_pos declares, prefixed.resolved]

include inner

theorem names_values : ∀ key ∈ (naming.values n outer given values).map Prod.fst,
    IsName key.toList := by
  have keys : ∀ key ∈ values.map Prod.fst, IsName key.toList := fun key member =>
    (inner.plain.names key member).isName
  by_cases declares : naming.Declares n outer given
  · rw [values_of_declaring prefixed declares]
    exact List.forall_mem_cons.mpr ⟨isName_declarer (naming.legal n), keys⟩
  · rwa [Naming.values, if_neg declares]

theorem distinct_values : ((naming.values n outer given values).map Prod.fst).Nodup := by
  by_cases declares : naming.Declares n outer given
  · rw [values_of_declaring prefixed declares]
    refine List.nodup_cons.mpr ⟨fun member => ?_, inner.plain.distinct⟩
    have other := inner.undeclaring _ member
    exact Bool.false_ne_true (other.symm.trans (declarer_declares _))
  · rw [Naming.values, if_neg declares]
    exact inner.plain.distinct

variable (naming n outer)

theorem wellFormed_tag : (naming.tag n outer given values).WellFormed := by
  refine wellFormed_of_names ?_ (names_values prefixed inner)
  rw [name_prefixed prefixed, spell, String.toList_ofList]
  exact isName_joinName (naming.legal n) prefixed.label.1

theorem declared_tag : (naming.tag n outer given values).declared =
    if naming.Declares n outer given then [⟨naming.label n, space.toList⟩] else [] := by
  have form (vs : Values) (given : String) : (vs.startTag given).declared =
      (vs.present.map Attribute.ofValue).filterMap Attribute.binding? := by
    simp [StartTag.declared, Values.startTag, List.filterMap_map, Function.comp_def,
      TagAttribute.attribute]
  rw [Naming.tag, form]
  by_cases declares : naming.Declares n outer given
  · rw [values_of_declaring prefixed declares, if_pos declares]
    have binding := binding_declarer (naming.label n) prefixed.space
    have rest := inner.undeclared
    rw [Values.present] at rest ⊢
    simp [binding, rest]
  · rw [Naming.values, if_neg declares, if_neg declares, inner.undeclared]

theorem formed_tag : (naming.tag n outer given values).NamespaceWellFormed where
  toWellFormed := wellFormed_tag naming n outer prefixed inner
  reserved := by
    intro b member
    rw [declared_tag naming n outer prefixed inner] at member
    split at member
    · obtain rfl := List.mem_singleton.mp member
      obtain ⟨b, known, same⟩ : ∃ b ∈ rootScope, b.space = space.toList := by
        have all : ∀ space ∈ [encryptionSpace, signatureSpace, compressionSpace],
            ∃ b ∈ rootScope, b.space = space.toList := by decide
        exact all space prefixed.space
      refine allowed_of_ne ?_ ?_ (same ▸ rootScope_space_ne b known)
      · exact fun same => (naming.legal n _ same).2.2.1 rfl
      · exact fun same => (naming.legal n _ same).2.2.2 rfl
    · cases member

theorem resolve_tag :
    ((naming.tag n outer given values).scope outer).resolve (naming.name n given) =
      rootScope.resolve given := by
  have named : space ≠ "" := by
    have all : ∀ space ∈ [encryptionSpace, signatureSpace, compressionSpace], space ≠ "" := by
      decide
    exact all space prefixed.space
  rw [StartTag.scope, declared_tag naming n outer prefixed inner]
  by_cases declares : naming.Declares n outer given
  · rw [if_pos declares, name_prefixed prefixed, prefixed.resolved]
    exact resolve_declared (naming.legal n) named prefixed.label.2
  · rw [if_neg declares]
    exact not_ne_iff.mp (not_or.mp declares).2

theorem alike_tagOf : Tag.Alike (tagOf given values) (naming.tag n outer given values).tag := by
  have one : attributes (tagOf given values).attributes =
      (values.present.map Attribute.ofValue, none) := attributes_render values inner.plain
  have formed := wellFormed_tag naming n outer prefixed inner
  refine alike_of_items one (attributes_startTag formed) (distinct_present inner.plain.distinct)
    (distinct_present (distinct_values prefixed inner)) fun key ordinary => ?_
  by_cases declares : naming.Declares n outer given
  · have apart : (key == declarer (naming.label n)) = false := by
      apply beq_false_of_ne
      rintro rfl
      exact not_ordinary_declarer _ ordinary
    rw [values_of_declaring prefixed declares]
    simp [Values.present, List.lookup_cons, apart]
  · rw [Naming.values, if_neg declares]

theorem alike_start : Event.Alike (rootScope.start (tagOf given values))
    (((naming.tag n outer given values).scope outer).start (naming.tag n outer given values).tag) := by
  have name : (naming.tag n outer given values).tag.name = naming.name n given := by
    simp [StartTag.tag, Naming.tag, Values.startTag, spell]
  refine .of_resolve (alike_tagOf naming n outer prefixed inner) ?_
  rw [name]
  exact resolve_tag naming n outer prefixed inner

end Tags

/-! ## Outlines -/

def Naming.Spells (naming : Naming) (outline : Outline) : Prop :=
  ∀ depth n nest rest, ∃ m part found,
    naming.text n nest (outline.indented depth ++ rest) = part ++ naming.text m nest rest ∧
    Cursor.Reads ⟨.content [], nest⟩ part found ⟨.content [], nest⟩ ∧
    List.Forall₂ Event.Alike (outline.events rootScope) found

section Outlines

variable {naming : Naming} {given space label : String} {values : Values}

theorem reads_line {piece : List Char} {nest inner : Nest} {found : List Event} (line : Line)
    (reads : Cursor.Reads ⟨.content [], nest⟩ piece found ⟨.content [], inner⟩) :
    Cursor.Reads ⟨.content [], nest⟩ (line.indent ++ (piece ++ ['\n'])) found
      ⟨.content [], inner⟩ := by
  have behind := (reads_blanks line.isXmlBlank_indent nest).append
    (reads.append (reads_blanks isXmlBlank_lineBreak inner))
  rwa [List.nil_append, List.append_nil] at behind

theorem spells_nil : naming.Spells [] := fun _ n _ _ => ⟨n, [], [], rfl, .nil _, .nil⟩

theorem spells_append {first second : Outline} (before : naming.Spells first)
    (behind : naming.Spells second) : naming.Spells (first ++ second) := by
  intro depth n nest rest
  obtain ⟨m, front, found, form, reads, alike⟩ :=
    before depth n nest (second.indented depth ++ rest)
  obtain ⟨m', back, later, form', reads', alike'⟩ := behind depth m nest rest
  refine ⟨m', front ++ back, found ++ later, ?_, reads.append reads', ?_⟩
  · rw [Outline.indented_append, List.append_assoc, form, form', List.append_assoc]
  · rw [Outline.events_append]
    exact List.rel_append alike alike'

variable (prefixed : Prefixed given space label)
include prefixed

theorem spells_leaf (inner : values.Inner) : naming.Spells (Outline.leaf given values) := by
  intro depth n nest rest
  have reads := (formed_tag naming n nest.scope prefixed inner).reads_empty nest []
  refine ⟨n + 1, _, _, ?_, reads_line ⟨depth, .empty given values⟩ reads, ?_⟩
  · simp [Outline.leaf, Outline.indented, Naming.text]
  · exact .cons (alike_start naming n nest.scope prefixed inner) (.cons .stop .nil)

theorem spells_nest {inside : Outline} (inner : values.Inner) (within : naming.Spells inside) :
    naming.Spells (Outline.nest given values inside) := by
  intro depth n nest rest
  have formed := formed_tag naming n nest.scope prefixed inner
  have blank : AllBlank [] := by decide
  have opens := reads_line ⟨depth, .opening given values⟩ (formed.reads_opening nest [])
  obtain ⟨m, part, found, form, reads, alike⟩ := within (depth + 1) (n + 1)
    (naming.opened n nest given values) (⟨depth, .closing given⟩ :: rest)
  have closes := reads_line ⟨depth, .closing given⟩ (formed.name.reads_closing blank nest
    ((naming.tag n nest.scope given values).scope nest.scope) [])
  have ends : naming.text m (naming.opened n nest given values) (⟨depth, .closing given⟩ :: rest) =
      (⟨depth, .closing given⟩ : Line).indent ++
        '<' :: '/' :: ((naming.tag n nest.scope given values).name ++ '>' :: '\n' ::
          naming.text m nest rest) := by
    simp [Naming.text, Naming.opened, spell]
  refine ⟨m, _, _, ?_, opens.append (reads.append closes), ?_⟩
  · rw [ends] at form
    rw [Outline.indented_nest]
    simp [Naming.text, form]
  · rw [Outline.events_nest]
    exact .cons (alike_start naming n nest.scope prefixed inner) (List.rel_append alike (.cons .stop .nil))

theorem spells_text {content : String} (solid : SolidText content) :
    naming.Spells (Outline.text given content) := by
  intro depth n nest rest
  have formed := formed_tag naming n nest.scope prefixed Values.inner_nil
  have blank : AllBlank [] := by decide
  have within := solid.reads (naming.opened n nest given [])
  have closes := formed.name.reads_closing blank nest
    ((naming.tag n nest.scope given []).scope nest.scope) content.toList.reverse
  rw [solid.held] at closes
  have element := (formed.reads_opening nest []).append (within.append closes)
  refine ⟨n + 1, _, _, ?_, reads_line ⟨depth, .text given content⟩ element, ?_⟩
  · simp [Outline.text, Outline.indented, Naming.text, solid.escaped, StartTag.closing]
  · exact .cons (alike_start naming n nest.scope prefixed Values.inner_nil) (.cons (.text _) (.cons .stop .nil))

end Outlines

/-! ## Manifests -/

def IsPrefixed (given : String) : Prop := ∃ space label, Prefixed given space label

theorem spells_inner {naming : Naming} {outline : Outline} (inner : outline.Inner)
    (prefixed : ∀ given ∈ outline.names, IsPrefixed given) : naming.Spells outline := by
  induction inner with
  | nil => exact spells_nil
  | append _ _ first second =>
    rw [Outline.names_append] at prefixed
    obtain ⟨before, behind⟩ := List.forall_mem_append.mp prefixed
    exact spells_append (first before) (second behind)
  | leaf _ values =>
    obtain ⟨_, _, prefixed⟩ := prefixed _ List.mem_cons_self
    exact spells_leaf prefixed values
  | text _ solid =>
    obtain ⟨_, _, prefixed⟩ := prefixed _ List.mem_cons_self
    exact spells_text prefixed solid
  | nest _ values _ within =>
    rw [Outline.names_nest] at prefixed
    obtain ⟨⟨_, _, here⟩, inside⟩ := List.forall_mem_cons.mp prefixed
    exact spells_nest here values (within (List.forall_mem_append.mp inside).1)

def recordNames : List String := ["enc:EncryptedData", "enc:EncryptionMethod", "enc:KeySize",
  "ds:KeyInfo", "ds:RetrievalMethod", "enc:CipherData", "enc:CipherReference",
  "enc:EncryptionProperties", "enc:EncryptionProperty", "comp:Compression"]

theorem isPrefixed_recordNames : ∀ given ∈ recordNames, IsPrefixed given := by
  have enc (label : String) (named : IsName label.toList ∧ ':' ∉ label.toList) :
      IsPrefixed ("enc:" ++ label) := ⟨_, label, resolve_enc label, by simp, named⟩
  have ds (label : String) (named : IsName label.toList ∧ ':' ∉ label.toList) :
      IsPrefixed ("ds:" ++ label) := ⟨_, label, resolve_ds label, by simp, named⟩
  have comp (label : String) (named : IsName label.toList ∧ ':' ∉ label.toList) :
      IsPrefixed ("comp:" ++ label) := ⟨_, label, resolve_comp label, by simp, named⟩
  simp only [recordNames, List.forall_mem_cons]
  exact ⟨enc "EncryptedData" (by decide), enc "EncryptionMethod" (by decide),
    enc "KeySize" (by decide), ds "KeyInfo" (by decide), ds "RetrievalMethod" (by decide),
    enc "CipherData" (by decide), enc "CipherReference" (by decide),
    enc "EncryptionProperties" (by decide), enc "EncryptionProperty" (by decide),
    comp "Compression" (by decide), nofun⟩

theorem names_method (r : Record) : ∀ given ∈ r.methodOutline.names, given ∈ recordNames := by
  unfold Record.methodOutline
  cases r.keySize with
  | some size => simp [recordNames]
  | none => cases r.algorithm <;> simp [Outline.names, Outline.leaf, Piece.name, recordNames]

theorem names_key (r : Record) : ∀ given ∈ r.keyOutline.names, given ∈ recordNames := by
  unfold Record.keyOutline
  cases r.keyInfo with
  | none => simp [Outline.names]
  | some info =>
    obtain ⟨keyName, retrieval⟩ := info
    cases retrieval <;> simp [recordNames]

theorem names_property (property : Option Compression) :
    ∀ given ∈ (Record.propertyOutline property).names, given ∈ recordNames := by
  cases property <;> simp [Record.propertyOutline, Record.compressionOutline, recordNames]

theorem names_properties (r : Record) :
    ∀ given ∈ r.propertiesOutline.names, given ∈ recordNames := by
  unfold Record.propertiesOutline
  cases r.properties with
  | none => simp [Outline.names]
  | some properties =>
    rw [Outline.names_nest]
    have ends : "enc:EncryptionProperties" ∈ recordNames := by simp [recordNames]
    refine List.forall_mem_cons.mpr ⟨ends, List.forall_mem_append.mpr ⟨?_, by simp [recordNames]⟩⟩
    intro given member
    obtain ⟨property, _, inside⟩ := Outline.mem_names_flatMap.mp member
    exact names_property property given inside

theorem names_record (r : Record) : ∀ given ∈ r.outline.names, given ∈ recordNames := by
  have cipher : ∀ given ∈ (Outline.nest "enc:CipherData" []
      (Outline.leaf "enc:CipherReference" [("URI", some r.uri)])).names, given ∈ recordNames := by
    simp [recordNames]
  have ends : "enc:EncryptedData" ∈ recordNames := by simp [recordNames]
  rw [Record.outline, Outline.names_nest]
  simp only [Outline.names_append, List.cons_append, List.forall_mem_cons, List.forall_mem_append]
  exact ⟨ends, ⟨⟨⟨names_method r, names_key r⟩, cipher⟩, names_properties r⟩, ends, nofun⟩

theorem spells_records (naming : Naming) (manifest : Manifest) :
    naming.Spells (manifest.flatMap Record.outline) := by
  refine spells_inner (inner_records manifest) fun given member => ?_
  obtain ⟨r, _, inside⟩ := Outline.mem_names_flatMap.mp member
  exact isPrefixed_recordNames given (names_record r given inside)

/-! ## The root -/

theorem declared_root : Naming.root.declared = [⟨none, containerSpace.toList⟩] := by
  decide

theorem formed_root : Naming.root.NamespaceWellFormed where
  toWellFormed := wellFormed_of_names (by decide) (by decide)
  reserved := by
    rw [declared_root]
    exact List.forall_mem_singleton.mpr rfl

theorem alike_root : Event.Alike (rootScope.start (tagOf "encryption" Manifest.rootValues))
    ((Naming.root.scope []).start Naming.root.tag) := by
  have absent (items : List (String × String)) (declaring : ∀ item ∈ items, ¬ Ordinary item.1)
      (key : String) (ordinary : Ordinary key) : items.lookup key = none := by
    refine List.lookup_eq_none_iff.mpr fun item member => bne_iff_ne.mpr ?_
    rintro rfl
    exact declaring item member ordinary
  have one : attributes (tagOf "encryption" Manifest.rootValues).attributes =
      (Manifest.rootValues.present.map Attribute.ofValue, none) := by
    rw [tagOf, attributes_render _ plain_rootValues]
  have other : attributes Naming.root.tag.attributes =
      ((Values.present [("xmlns", some containerSpace)]).map Attribute.ofValue, none) :=
    attributes_startTag formed_root.toWellFormed
  have distinct := distinct_present plain_rootValues.distinct
  have distinct' : ((Values.present [("xmlns", some containerSpace)]).map Prod.fst).Nodup := by
    simp [Values.present]
  have named : Naming.root.tag.name = "encryption" := by
    simp [StartTag.tag, Naming.root, Values.startTag, spell]
  refine .of_resolve (alike_of_items one other distinct distinct' fun key ordinary => ?_) ?_
  · rw [absent _ (by decide) key ordinary, absent _ (by decide) key ordinary]
  · have resolved : Scope.resolve [⟨none, containerSpace.toList⟩] "encryption" =
        (some containerSpace, "encryption") := by decide
    rw [StartTag.scope, declared_root, named]
    exact resolved.trans resolve_root.symm

theorem reads_body (naming : Naming) (manifest : Manifest) : ∃ found,
    Cursor.Reads ⟨.content [], []⟩ (naming.body manifest) found ⟨.content [], []⟩ ∧
      List.Forall₂ Event.Alike ((Manifest.outline manifest).events rootScope) found := by
  have lineBreak (nest : Nest) := reads_blanks isXmlBlank_lineBreak nest
  cases manifest with
  | nil =>
    refine ⟨_, (formed_root.reads_empty [] []).append (lineBreak []), ?_⟩
    exact .cons alike_root (.cons .stop .nil)
  | cons r manifest =>
    have blank : AllBlank [] := by decide
    obtain ⟨m, part, found, form, reads, alike⟩ := spells_records naming (r :: manifest) 1 0
      [(spell Naming.root.name, Naming.root.scope [])] []
    have opens := (formed_root.reads_opening [] []).append (lineBreak _)
    have closes := (formed_root.name.reads_closing blank [] (Naming.root.scope []) []).append
      (lineBreak [])
    have written : naming.body (r :: manifest) = Naming.root.opening ++ ['\n'] ++
        (part ++ (Naming.root.closing [] ++ ['\n'])) := by
      rw [List.append_nil] at form
      rw [Naming.body, List.isEmpty_cons, if_neg Bool.false_ne_true, form]
      simp [Naming.text]
    refine ⟨_, written ▸ opens.append (reads.append closes), ?_⟩
    rw [outline_cons, Outline.events_nest]
    exact .cons alike_root (List.rel_append alike (.cons .stop .nil))

theorem events_naming (naming : Naming) (manifest : Manifest) : ∃ found,
    Xml.events (naming.render manifest) = (found, none) ∧
      List.Forall₂ Event.Alike ((Manifest.outline manifest).events rootScope) found := by
  obtain ⟨found, reads, alike⟩ := reads_body naming manifest
  refine ⟨found, ?_, alike⟩
  have declared : Cursor.start.Reads Manifest.declaration.toList [] ⟨.content [], []⟩ := rfl
  have whole := declared.append ((reads_blanks isXmlBlank_lineBreak []).append reads)
  have made := whole.remaining []
  rw [List.append_nil] at made
  have begins : unmarked (naming.render manifest).toList =
      Manifest.declaration.toList ++ (['\n'] ++ naming.body manifest) := by
    rw [Naming.render, spell, String.toList_ofList]
    rfl
  rw [events_eq_remaining, begins, made]
  simp [Cursor.remaining, scanFrom, Place.finish, textToken, eventsFrom]

theorem read_naming (naming : Naming) (manifest : Manifest) :
    Manifest.read (naming.render manifest) = .ok manifest := by
  obtain ⟨found, made, alike⟩ := events_naming naming manifest
  have written := events_render manifest
  have seen : List.Forall₂ Event.Alike (Xml.events manifest.render).1
      (Xml.events (naming.render manifest)).1 := by
    rwa [written, made]
  have same := read_alike seen (by rw [written, made])
  rw [read_render] at same
  exact ok_of_toOption same.symm

/-- Prefixes make no difference. A document is read alike under other ones, and what is written of a
manifest may declare any in its elements, whatever they stand for around these. -/
theorem read_any_prefixes :
    (∀ (ρ : Renaming) (text : String),
      (Manifest.read (ρ.text text)).toOption = (Manifest.read text).toOption) ∧
    ∀ (naming : Naming) (manifest : Manifest),
      Manifest.read (naming.render manifest) = .ok manifest :=
  ⟨read_renamed, read_naming⟩

def lockedPage : Record :=
  { Record.of "page.xhtml" "AES-CBC" with keySize := some 256, keyInfo := some { keyName := "k" } }

/-- All elements take one prefix, each from the one around it, and all of them another one then. -/
theorem read_any_prefixes_shadowing :
    Manifest.read (Naming.shadowing.render [lockedPage]) = .ok [lockedPage] ∧
      (Manifest.read ((Renaming.swap ['p'] ['q'] (by decide) (by decide)).text
        (Naming.shadowing.render [lockedPage]))).toOption = some [lockedPage] := by
  have named := read_any_prefixes.2 Naming.shadowing [lockedPage]
  have renamed := read_any_prefixes.1 (Renaming.swap ['p'] ['q'] (by decide) (by decide))
    (Naming.shadowing.render [lockedPage])
  exact ⟨named, renamed.trans (congrArg Except.toOption named)⟩

end Bindery.Encryption
