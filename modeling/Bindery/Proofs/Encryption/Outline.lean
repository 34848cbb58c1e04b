import Bindery.Proofs.Encryption.Scope
import Bindery.Proofs.Text.Numeral

/-! A record as it is written and as it is read. Each part of a written record sets the fields that
it holds and leaves the others alone, so that the reader ends a record with the one written. -/
namespace Bindery.Encryption

open Xml

/-! ## Numbers -/

theorem toList_toString (n : Nat) : (toString n).toList = Nat.toDigits 10 n := by
  simp [Nat.toString_eq_repr, Nat.repr]

theorem solidText_toString (n : Nat) : SolidText (toString n) := by
  rw [SolidText, toList_toString]
  refine ⟨Nat.toDigits_ne_nil, fun c member => ?_⟩
  exact of_isDigit (fun c => escapeChar c = [c] ∧ isXmlBlank c = false) (by decide)
    (isDigit_toDigits n c member)

theorem readNumber_toString (what : String) {limit n : Nat} (below : n < limit) :
    readNumber what limit (toString n).toList = .ok n := by
  simp only [readNumber, toList_toString, numeral_toDigits below]

theorem trim_toString (n : Nat) : trim isBlank (toString n).toList = (toString n).toList := by
  apply trim_eq_self
  intro c member
  rw [toList_toString] at member
  exact not_isBlank_of_isDigit (isDigit_toDigits n c member)

/-! ## Parts of a record -/

def Turns (path : List Part) (outline : Outline) (r r' : Record) : Prop :=
  ∀ records : List Record,
    (outline.events rootScope).foldlM Progress.step ⟨.inside r path, records⟩ =
      .ok ⟨.inside r' path, records⟩

variable {path : List Part} {r r' r'' : Record}

theorem turns_nil : Turns path [] r r := fun _ => rfl

theorem turns_append {first second : Outline} (before : Turns path first r r')
    (after : Turns path second r' r'') : Turns path (first ++ second) r r'' := by
  intro records
  rw [Outline.events_append, List.foldlM_append, before records]
  exact after records

theorem turns_nest {name label : String} {values : Values} {inside : Outline}
    {space : Option String}
    {part : Part} (resolved : rootScope.resolve name = (space, label))
    (entered : r.enter path space label (tagOf name values) = .ok (r', part))
    (within : Turns (part :: path) inside r' r'') :
    Turns path (Outline.nest name values inside) r r'' := by
  intro records
  have start : Progress.step ⟨.inside r path, records⟩ (rootScope.start (tagOf name values)) =
      .ok ⟨.inside r' (part :: path), records⟩ := by
    have resolved : rootScope.resolve (tagOf name values).name = (space, label) := resolved
    simp only [Scope.start, resolved, Progress.step, entered]
    rfl
  rw [Outline.events_nest, List.cons_append, List.foldlM_cons, start]
  change (inside.events rootScope ++ [Event.stop]).foldlM Progress.step _ = _
  rw [List.foldlM_append, within records]
  rfl

theorem turns_leaf {name label : String} {values : Values} {space : Option String} {part : Part}
    (resolved : rootScope.resolve name = (space, label))
    (entered : r.enter path space label (tagOf name values) = .ok (r', part)) :
    Turns path (Outline.leaf name values) r r' := by
  have around : Turns path (Outline.nest name values []) r r' :=
    turns_nest resolved entered turns_nil
  exact around

/-! ## The method and the key -/

theorem turns_keySize (size : UInt32) :
    Turns [.method] (Outline.text "enc:KeySize" (toString size.toNat)) r
      { r with keySize := some size } := by
  intro records
  have start : Progress.step ⟨.inside r [.method], records⟩
      (rootScope.start (tagOf "enc:KeySize" [])) =
      .ok ⟨.inside r [.keySize, .method], records⟩ := by
    have resolved : rootScope.resolve (tagOf "enc:KeySize" []).name = _ := resolve_enc "KeySize"
    simp only [Scope.start, resolved, Progress.step, Record.enter]
    rfl
  have number : readNumber "KeySize" (Nat.pow 2 32) (trim isBlank (toString size.toNat).toList) =
      .ok size.toNat := by
    rw [trim_toString]
    exact readNumber_toString "KeySize" size.toNat_lt
  have text : Progress.step ⟨.inside r [.keySize, .method], records⟩
      (.text (toString size.toNat).toList) =
      .ok ⟨.inside { r with keySize := some size } [.keySize, .method], records⟩ := by
    simp only [Progress.step, number, bind, Except.bind, UInt32.ofNat_toNat]
  change [rootScope.start (tagOf "enc:KeySize" []), .text (toString size.toNat).toList,
    Event.stop].foldlM Progress.step _ = _
  rw [List.foldlM_cons, start]
  change List.foldlM Progress.step _ [.text (toString size.toNat).toList, Event.stop] = _
  rw [List.foldlM_cons, text]
  rfl

theorem inner_algorithm (algorithm : Option String) :
    Values.Inner [("Algorithm", algorithm)] :=
  Values.inner_of_names ["Algorithm"] rfl (by decide) (by decide)

theorem enter_method (algorithm : Option String) :
    r.enter [] (some encryptionSpace) "EncryptionMethod"
        (tagOf "enc:EncryptionMethod" [("Algorithm", algorithm)]) =
      .ok ({ r with algorithm }, .method) := by
  have value := value_render _ (inner_algorithm algorithm).plain "Algorithm"
  simp [Record.enter, tagOf, value, bind, Except.bind]

theorem turns_method (written : Record) (noAlgorithm : r.algorithm = none)
    (noSize : r.keySize = none) :
    Turns [] written.methodOutline r
      { r with algorithm := written.algorithm, keySize := written.keySize } := by
  unfold Record.methodOutline
  cases sized : written.keySize with
  | some size =>
    exact turns_nest (resolve_enc "EncryptionMethod") (enter_method written.algorithm)
      (turns_keySize size)
  | none =>
    cases named : written.algorithm with
    | some algorithm =>
      have same : { r with algorithm := some algorithm, keySize := none } =
          { r with algorithm := some algorithm } := by
        cases r; simp_all
      rw [same]
      exact turns_leaf (resolve_enc "EncryptionMethod") (enter_method (some algorithm))
    | none =>
      have same : { r with algorithm := none, keySize := none } = r := by cases r; simp_all
      rw [same]
      exact turns_nil

theorem inner_keyName (keyName : Option String) : Values.Inner [("KeyName", keyName)] :=
  Values.inner_of_names ["KeyName"] rfl (by decide) (by decide)

theorem inner_retrieval (uri type : Option String) :
    Values.Inner [("URI", uri), ("Type", type)] :=
  Values.inner_of_names ["URI", "Type"] rfl (by decide) (by decide)

theorem enter_keyInfo (keyName : Option String) :
    r.enter [] (some signatureSpace) "KeyInfo" (tagOf "ds:KeyInfo" [("KeyName", keyName)]) =
      .ok ({ r with keyInfo := some { keyName } }, .keyInfo) := by
  have value := value_render _ (inner_keyName keyName).plain "KeyName"
  simp [Record.enter, tagOf, value, bind, Except.bind]

theorem turns_retrieval (keyName : Option String) (retrieval : Retrieval) :
    Turns [.keyInfo]
      (Outline.leaf "ds:RetrievalMethod"
        [("URI", some retrieval.uri), ("Type", some retrieval.type)])
      { r with keyInfo := some { keyName } }
      { r with keyInfo := some { keyName, retrieval := some retrieval } } := by
  have plain := (inner_retrieval (some retrieval.uri) (some retrieval.type)).plain
  have uri : value? _ "URI" = .ok (some retrieval.uri) := value_render _ plain "URI"
  have type : value? _ "Type" = .ok (some retrieval.type) := value_render _ plain "Type"
  have entered : Record.enter { r with keyInfo := some { keyName } } [.keyInfo]
      (some signatureSpace) "RetrievalMethod" (tagOf "ds:RetrievalMethod"
        [("URI", some retrieval.uri), ("Type", some retrieval.type)]) =
      .ok ({ r with keyInfo := some { keyName, retrieval := some retrieval } }, .retrieval) := by
    simp [Record.enter, tagOf, uri, type, bind, Except.bind]
  exact turns_leaf (resolve_ds "RetrievalMethod") entered

theorem turns_key (written : Record) (noInfo : r.keyInfo = none) :
    Turns [] written.keyOutline r { r with keyInfo := written.keyInfo } := by
  unfold Record.keyOutline
  cases known : written.keyInfo with
  | none =>
    have same : { r with keyInfo := none } = r := by cases r; simp_all
    rw [same]
    exact turns_nil
  | some info =>
    obtain ⟨keyName, retrieval⟩ := info
    cases retrieval with
    | none => exact turns_leaf (resolve_ds "KeyInfo") (enter_keyInfo keyName)
    | some retrieval =>
      exact turns_nest (resolve_ds "KeyInfo") (enter_keyInfo keyName)
        (turns_retrieval keyName retrieval)

/-! ## The cipher data and the properties -/

theorem inner_uri (uri : String) : Values.Inner [("URI", some uri)] :=
  Values.inner_of_names ["URI"] rfl (by decide) (by decide)

theorem turns_cipherData (uri : String) :
    Turns [] (Outline.nest "enc:CipherData" []
        (Outline.leaf "enc:CipherReference" [("URI", some uri)])) r { r with uri } := by
  have entered : r.enter [] (some encryptionSpace) "CipherData" (tagOf "enc:CipherData" []) =
      .ok (r, .cipherData) := by
    simp [Record.enter]
  have value := value_render _ (inner_uri uri).plain "URI"
  have reference : r.enter [.cipherData] (some encryptionSpace) "CipherReference"
      (tagOf "enc:CipherReference" [("URI", some uri)]) =
      .ok ({ r with uri }, .cipherReference) := by
    simp [Record.enter, tagOf, value, bind, Except.bind]
  exact turns_nest (resolve_enc "CipherData") entered
    (turns_leaf (resolve_enc "CipherReference") reference)

theorem inner_compression (method length : Option String) :
    Values.Inner [("Method", method), ("OriginalLength", length)] :=
  Values.inner_of_names ["Method", "OriginalLength"] rfl (by decide) (by decide)

theorem ofTag_compression (c : Compression) :
    Compression.ofTag (tagOf "comp:Compression"
      [("Method", some (toString c.method.toNat)),
        ("OriginalLength", some (toString c.originalLength.toNat))]) = .ok c := by
  have plain := (inner_compression (some (toString c.method.toNat))
    (some (toString c.originalLength.toNat))).plain
  have method : value? _ "Method" = .ok (some (toString c.method.toNat)) :=
    value_render _ plain "Method"
  have length : value? _ "OriginalLength" = .ok (some (toString c.originalLength.toNat)) :=
    value_render _ plain "OriginalLength"
  simp only [Compression.ofTag, tagOf, method, length, bind, Except.bind, Option.getD_some]
  rw [readNumber_toString "Compression Method" c.method.toNat_lt,
    readNumber_toString "Compression OriginalLength" c.originalLength.toNat_lt]
  simp

theorem enter_compression {tag : Tag} {c : Compression} (before : List (Option Compression))
    (described : Compression.ofTag tag = .ok c) :
    Record.enter { r with properties := some (before ++ [none]) } (.property :: path)
        (some compressionSpace) "Compression" tag =
      .ok ({ r with properties := some (before ++ [some c]) }, .compression) := by
  simp [Record.enter, described, describeLast, bind, Except.bind]

theorem turns_property (before : List (Option Compression)) (property : Option Compression) :
    Turns [.properties] (Record.propertyOutline property) { r with properties := some before }
      { r with properties := some (before ++ [property]) } := by
  have entered : Record.enter { r with properties := some before } [.properties]
      (some encryptionSpace) "EncryptionProperty" (tagOf "enc:EncryptionProperty" []) =
      .ok ({ r with properties := some (before ++ [none]) }, .property) := by
    simp [Record.enter]
  cases property with
  | none => exact turns_leaf (resolve_enc "EncryptionProperty") entered
  | some c =>
    exact turns_nest (resolve_enc "EncryptionProperty") entered
      (turns_leaf (resolve_comp "Compression") (enter_compression before (ofTag_compression c)))

theorem turns_flatMap_property (before properties : List (Option Compression)) :
    Turns [.properties] (properties.flatMap Record.propertyOutline)
      { r with properties := some before }
      { r with properties := some (before ++ properties) } := by
  induction properties generalizing before with
  | nil =>
    rw [List.append_nil]
    exact turns_nil
  | cons property properties ih =>
    have rest := ih (before ++ [property])
    rw [List.append_assoc] at rest
    exact turns_append (turns_property before property) rest

theorem turns_properties (written : Record) (noProperties : r.properties = none) :
    Turns [] written.propertiesOutline r { r with properties := written.properties } := by
  unfold Record.propertiesOutline
  cases listed : written.properties with
  | none =>
    have same : { r with properties := none } = r := by cases r; simp_all
    rw [same]
    exact turns_nil
  | some properties =>
    have entered : r.enter [] (some encryptionSpace) "EncryptionProperties"
        (tagOf "enc:EncryptionProperties" []) =
        .ok ({ r with properties := some [] }, .properties) := by
      simp [Record.enter, noProperties]
    exact turns_nest (resolve_enc "EncryptionProperties") entered
      (turns_flatMap_property [] properties)

/-! ## A whole record -/

def Record.values (r : Record) : Values :=
  [("Id", r.id), ("Type", r.type), ("MimeType", r.mimeType), ("Encoding", r.encoding)]

def Record.inner (r : Record) : Outline :=
  r.methodOutline ++ r.keyOutline ++ Outline.nest "enc:CipherData" []
    (Outline.leaf "enc:CipherReference" [("URI", some r.uri)]) ++ r.propertiesOutline

theorem Record.outline_eq (r : Record) :
    r.outline = Outline.nest "enc:EncryptedData" r.values r.inner := rfl

theorem inner_values (r : Record) : r.values.Inner :=
  Values.inner_of_names ["Id", "Type", "MimeType", "Encoding"] rfl (by decide) (by decide)

theorem ofTag_values (r : Record) :
    Record.ofTag (tagOf "enc:EncryptedData" r.values) =
      .ok { id := r.id, type := r.type, mimeType := r.mimeType, encoding := r.encoding } := by
  have plain := (inner_values r).plain
  have all := values_render _ plain
  have found := lookup_present _ plain.distinct
  simp only [Record.values] at all found
  simp [Record.ofTag, tagOf, Record.values, all, found, bind, Except.bind, List.lookup_cons]

theorem turns_inner (r : Record) :
    Turns [] r.inner
      { id := r.id, type := r.type, mimeType := r.mimeType, encoding := r.encoding } r := by
  have method := turns_method
    (r := { id := r.id, type := r.type, mimeType := r.mimeType, encoding := r.encoding }) r rfl rfl
  have key := turns_append method (turns_key r rfl)
  have cipher := turns_append key (turns_cipherData r.uri)
  exact turns_append cipher (turns_properties r rfl)

theorem step_record (r : Record) (records : List Record) :
    Progress.step ⟨.between, records⟩
        (rootScope.start (tagOf "enc:EncryptedData" r.values)) =
      .ok ⟨.inside
          { id := r.id, type := r.type, mimeType := r.mimeType, encoding := r.encoding } [],
        records⟩ := by
  have resolved : rootScope.resolve "enc:EncryptedData" = _ := resolve_enc "EncryptedData"
  have tag := ofTag_values r
  simp only [tagOf] at tag
  simp only [Scope.start, tagOf, resolved, Progress.step, tag]
  rfl

theorem foldlM_record (r : Record) (records : List Record) :
    (r.outline.events rootScope).foldlM Progress.step ⟨.between, records⟩ =
      .ok ⟨.between, r :: records⟩ := by
  rw [r.outline_eq, Outline.events_nest, List.cons_append, List.foldlM_cons, step_record]
  change List.foldlM Progress.step _ (_ ++ [Event.stop]) = _
  rw [List.foldlM_append, turns_inner r records]
  rfl

theorem foldlM_records (manifest : Manifest) (records : List Record) :
    (Outline.events rootScope (manifest.flatMap Record.outline)).foldlM Progress.step
        ⟨.between, records⟩ =
      .ok ⟨.between, manifest.reverse ++ records⟩ := by
  induction manifest generalizing records with
  | nil => rfl
  | cons r manifest ih =>
    rw [List.flatMap_cons, Outline.events_append, List.foldlM_append, foldlM_record r records]
    change List.foldlM Progress.step _ _ = _
    rw [ih (r :: records)]
    simp

/-! ## Inner outlines -/

theorem inner_method (r : Record) : r.methodOutline.Inner := by
  unfold Record.methodOutline
  cases r.keySize with
  | some size =>
    exact .nest (by decide) (inner_algorithm r.algorithm)
      (.text (by decide) (solidText_toString size.toNat))
  | none =>
    cases r.algorithm with
    | some algorithm => exact .leaf (by decide) (inner_algorithm (some algorithm))
    | none => exact .nil

theorem inner_key (r : Record) : r.keyOutline.Inner := by
  unfold Record.keyOutline
  cases r.keyInfo with
  | none => exact .nil
  | some info =>
    obtain ⟨keyName, retrieval⟩ := info
    cases retrieval with
    | none => exact .leaf (by decide) (inner_keyName keyName)
    | some retrieval =>
      exact .nest (by decide) (inner_keyName keyName)
        (.leaf (by decide) (inner_retrieval (some retrieval.uri) (some retrieval.type)))

theorem inner_property (property : Option Compression) :
    (Record.propertyOutline property).Inner := by
  cases property with
  | none => exact .leaf (by decide) Values.inner_nil
  | some c =>
    exact .nest (by decide) Values.inner_nil (.leaf (by decide) (inner_compression _ _))

theorem inner_properties (r : Record) : r.propertiesOutline.Inner := by
  unfold Record.propertiesOutline
  cases r.properties with
  | none => exact .nil
  | some properties =>
    exact .nest (by decide) Values.inner_nil
      (Outline.Inner.flatMap properties _ fun property _ => inner_property property)

theorem inner_inner (r : Record) : r.inner.Inner := by
  have cipher : Outline.Inner (Outline.nest "enc:CipherData" []
      (Outline.leaf "enc:CipherReference" [("URI", some r.uri)])) :=
    .nest (by decide) Values.inner_nil (.leaf (by decide) (inner_uri r.uri))
  exact .append (.append (.append (inner_method r) (inner_key r)) cipher) (inner_properties r)

theorem inner_outline (r : Record) : r.outline.Inner :=
  .nest (by decide) (inner_values r) (inner_inner r)

end Bindery.Encryption
