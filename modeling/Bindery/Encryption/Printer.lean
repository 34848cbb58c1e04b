import Bindery.Encryption.Record
import Bindery.Encryption.Space
import Bindery.Text.Bytes
import Bindery.Xml.Outline

/-! The written form of an encryption manifest: a declaration line and an outline, always UTF-8. -/
namespace Bindery.Encryption

open Xml (Outline)

namespace Record

/-- The algorithm and the key size; nothing if neither is known. -/
def methodOutline (r : Record) : Outline :=
  match r.keySize with
  | some size =>
    Outline.nest "enc:EncryptionMethod" [("Algorithm", r.algorithm)]
      (Outline.text "enc:KeySize" (toString size.toNat))
  | none =>
    if r.algorithm.isSome then Outline.leaf "enc:EncryptionMethod" [("Algorithm", r.algorithm)]
    else []

def keyOutline (r : Record) : Outline :=
  match r.keyInfo with
  | none => []
  | some info =>
    match info.retrieval with
    | none => Outline.leaf "ds:KeyInfo" [("KeyName", info.keyName)]
    | some retrieval =>
      Outline.nest "ds:KeyInfo" [("KeyName", info.keyName)]
        (Outline.leaf "ds:RetrievalMethod"
          [("URI", some retrieval.uri), ("Type", some retrieval.type)])

def compressionOutline (c : Compression) : Outline :=
  Outline.leaf "comp:Compression"
    [("Method", some (toString c.method.toNat)),
      ("OriginalLength", some (toString c.originalLength.toNat))]

def propertyOutline : Option Compression → Outline
  | none => Outline.leaf "enc:EncryptionProperty" []
  | some c => Outline.nest "enc:EncryptionProperty" [] (compressionOutline c)

def propertiesOutline (r : Record) : Outline :=
  match r.properties with
  | none => []
  | some properties =>
    Outline.nest "enc:EncryptionProperties" [] (properties.flatMap propertyOutline)

def outline (r : Record) : Outline :=
  Outline.nest "enc:EncryptedData"
    [("Id", r.id), ("Type", r.type), ("MimeType", r.mimeType), ("Encoding", r.encoding)]
    (r.methodOutline ++ r.keyOutline ++
      Outline.nest "enc:CipherData" [] (Outline.leaf "enc:CipherReference" [("URI", some r.uri)]) ++
      r.propertiesOutline)

end Record

namespace Manifest

def declaration : String := "<?xml version=\"1.0\" encoding=\"UTF-8\"?>"

def rootValues : Xml.Values := [
  ("xmlns", some containerSpace), ("xmlns:enc", some encryptionSpace),
  ("xmlns:ds", some signatureSpace), ("xmlns:comp", some compressionSpace)]

/-- The outline of a manifest. Without records the root is an empty element. -/
def outline (manifest : Manifest) : Outline :=
  if manifest.isEmpty then Outline.leaf "encryption" rootValues
  else Outline.nest "encryption" rootValues (manifest.flatMap Record.outline)

def render (manifest : Manifest) : String := declaration ++ "\n" ++ (outline manifest).render

end Manifest

end Bindery.Encryption
