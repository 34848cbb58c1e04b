import Bindery.Encryption.Printer
import Bindery.Xml.Printer

/-! A manifest piece by piece, in the order in which a printer is given them. Start tags and end tags
are pieces like any other here: which of them belong together is left to the records. -/
namespace Bindery.Encryption

open Xml (Piece Printer)

namespace Record

def methodPieces (r : Record) : List Piece :=
  match r.keySize with
  | some size => [
      .opening "enc:EncryptionMethod" [("Algorithm", r.algorithm)],
      .text "enc:KeySize" (toString size.toNat),
      .closing "enc:EncryptionMethod"]
  | none =>
    if r.algorithm.isSome then [.empty "enc:EncryptionMethod" [("Algorithm", r.algorithm)]] else []

def keyPieces (r : Record) : List Piece :=
  match r.keyInfo with
  | none => []
  | some info =>
    match info.retrieval with
    | none => [.empty "ds:KeyInfo" [("KeyName", info.keyName)]]
    | some retrieval => [
        .opening "ds:KeyInfo" [("KeyName", info.keyName)],
        .empty "ds:RetrievalMethod" [("URI", some retrieval.uri), ("Type", some retrieval.type)],
        .closing "ds:KeyInfo"]

def propertyPieces : Option Compression → List Piece
  | none => [.empty "enc:EncryptionProperty" []]
  | some c => [
      .opening "enc:EncryptionProperty" [],
      .empty "comp:Compression"
        [("Method", some (toString c.method.toNat)),
          ("OriginalLength", some (toString c.originalLength.toNat))],
      .closing "enc:EncryptionProperty"]

def propertiesPieces (r : Record) : List Piece :=
  match r.properties with
  | none => []
  | some properties =>
    .opening "enc:EncryptionProperties" [] :: properties.flatMap propertyPieces ++
      [.closing "enc:EncryptionProperties"]

def pieces (r : Record) : List Piece :=
  .opening "enc:EncryptedData"
      [("Id", r.id), ("Type", r.type), ("MimeType", r.mimeType), ("Encoding", r.encoding)] ::
    r.methodPieces ++ r.keyPieces ++
    [.opening "enc:CipherData" [], .empty "enc:CipherReference" [("URI", some r.uri)],
      .closing "enc:CipherData"] ++
    r.propertiesPieces ++ [.closing "enc:EncryptedData"]

end Record

namespace Manifest

def pieces (manifest : Manifest) : List Piece :=
  if manifest.isEmpty then [.empty "encryption" rootValues]
  else .opening "encryption" rootValues :: manifest.flatMap Record.pieces ++
    [.closing "encryption"]

def printer : Printer := Printer.line {} declaration

def print (manifest : Manifest) : Printer := manifest.pieces.foldl Printer.put printer

end Manifest
end Bindery.Encryption
