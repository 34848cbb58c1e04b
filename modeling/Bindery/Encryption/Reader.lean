import Bindery.Charset.Document
import Bindery.Encryption.Record
import Bindery.Encryption.Space
import Bindery.Text.Numeral
import Bindery.Xml.Event

/-! Reading of an encryption manifest. Only direct children of a record, and the few elements
modelled inside them, are bound; any other element is skipped with all that it holds. -/
namespace Bindery.Encryption

open Xml (Event Tag)

/-- Elements open inside a record. -/
inductive Part where
  | method
  | keySize
  | keyInfo
  | retrieval
  | cipherData
  | cipherReference
  | properties
  | property
  | compression
  | skipped
deriving DecidableEq, Repr

/-- Where in the document the reader stands. -/
inductive Position where
  | start
  | between
  | inside (record : Record) (path : List Part)
deriving DecidableEq, Repr

/-- The records read so far, in reverse, and the reader's position. -/
structure Progress where
  position : Position := .start
  records : List Record := []
deriving DecidableEq, Repr

def readNumber (what : String) (limit : Nat) (text : List Char) : Result Nat :=
  match numeral? limit text with
  | some n => .ok n
  | none => .error (.format (.badNumber what (spell text)))

def Record.ofTag (tag : Tag) : Result Record := do
  let values ← Xml.values tag.attributes
  .ok {
    id := values.lookup "Id"
    type := values.lookup "Type"
    mimeType := values.lookup "MimeType"
    encoding := values.lookup "Encoding" }

def Compression.ofTag (tag : Tag) : Result Compression := do
  let method := (← Xml.value? tag.attributes "Method").getD "0"
  let length := (← Xml.value? tag.attributes "OriginalLength").getD "0"
  let method ← readNumber "Compression Method" (Nat.pow 2 16) method.toList
  let length ← readNumber "Compression OriginalLength" (Nat.pow 2 64) length.toList
  .ok ⟨UInt16.ofNat method, UInt64.ofNat length⟩

def describeLast (c : Compression) (properties : List (Option Compression)) :
    List (Option Compression) :=
  if properties.isEmpty then [] else properties.dropLast ++ [some c]

def Record.enter (r : Record) (path : List Part) (space : Option String) (label : String)
    (tag : Tag) : Result (Record × Part) :=
  let enc := space = some encryptionSpace
  let sig := space = some signatureSpace
  match path with
  | [] =>
    if enc ∧ label = "EncryptionMethod" then do
      .ok ({ r with algorithm := ← Xml.value? tag.attributes "Algorithm" }, .method)
    else if sig ∧ label = "KeyInfo" then do
      let keyName ← Xml.value? tag.attributes "KeyName"
      .ok ({ r with keyInfo := some { keyName } }, .keyInfo)
    else if enc ∧ label = "CipherData" then .ok (r, .cipherData)
    else if enc ∧ label = "EncryptionProperties" then
      .ok ({ r with properties := some (r.properties.getD []) }, .properties)
    else .ok (r, .skipped)
  | .method :: _ =>
    if label = "KeySize" then .ok (r, .keySize) else .ok (r, .skipped)
  | .keyInfo :: _ =>
    if sig ∧ label = "RetrievalMethod" then do
      let uri := (← Xml.value? tag.attributes "URI").getD ""
      let type := (← Xml.value? tag.attributes "Type").getD ""
      .ok ({ r with keyInfo := some { r.keyInfo.getD {} with retrieval := some ⟨uri, type⟩ } },
        .retrieval)
    else .ok (r, .skipped)
  | .cipherData :: _ =>
    if enc ∧ label = "CipherReference" then do
      .ok ({ r with uri := (← Xml.value? tag.attributes "URI").getD "" }, .cipherReference)
    else .ok (r, .skipped)
  | .properties :: _ =>
    if enc ∧ label = "EncryptionProperty" then
      .ok ({ r with properties := some (r.properties.getD [] ++ [none]) }, .property)
    else .ok (r, .skipped)
  | .property :: _ =>
    if space = some compressionSpace ∧ label = "Compression" then do
      let c ← Compression.ofTag tag
      .ok ({ r with properties := r.properties.map (describeLast c) }, .compression)
    else .ok (r, .skipped)
  | _ => .ok (r, .skipped)

def Progress.step (p : Progress) (event : Event) : Result Progress :=
  match p.position, event with
  | .start, .start space label tag =>
    if space = some containerSpace ∧ label = "encryption" then
      .ok { p with position := .between }
    else .error (.format (.unexpectedRoot containerSpace tag.name))
  | .between, .start space label tag =>
    if space = some encryptionSpace ∧ label = "EncryptedData" then do
      let record ← Record.ofTag tag
      .ok { p with position := .inside record [] }
    else .ok p
  | .inside record path, .start space label tag => do
    let (record, part) ← record.enter path space label tag
    .ok { p with position := .inside record (part :: path) }
  | .inside record [], .stop => .ok ⟨.between, record :: p.records⟩
  | .inside record (_ :: path), .stop => .ok { p with position := .inside record path }
  | .inside record (.keySize :: path), .text content => do
    let size ← readNumber "KeySize" (Nat.pow 2 32) (trim isBlank content)
    let record := { record with keySize := some (UInt32.ofNat size) }
    .ok { p with position := .inside record (.keySize :: path) }
  | _, _ => .ok p

def Progress.finish (p : Progress) : Result Manifest :=
  match p.position with
  | .start => .error (.format .noRoot)
  | .inside .. => .error (.format .unterminatedRecord)
  | .between => .ok p.records.reverse

def Manifest.read (text : String) : Result Manifest := do
  let (events, fault) := Xml.events text
  let progress ← events.foldlM Progress.step {}
  match fault with
  | some fault => .error (.format (.markup fault))
  | none => progress.finish

def Manifest.readDocument (bytes : Bytes) : Result Manifest := do
  Manifest.read (← Charset.decodeDocument bytes)

end Bindery.Encryption
