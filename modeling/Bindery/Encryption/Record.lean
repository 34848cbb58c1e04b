import Bindery.UriPath

/-! Records of the XML encryption manifest: one for each protected resource, pointing at it by the
escaped path of its cipher reference. -/
namespace Bindery.Encryption

/-- How a plaintext was compressed before it was encrypted, and its length before that. -/
structure Compression where
  method : UInt16
  originalLength : UInt64
deriving DecidableEq, Repr

def deflateMethod : UInt16 := 8

def plainMethod : UInt16 := 0

/-- Where the key of a record is found. -/
structure Retrieval where
  uri : String
  type : String
deriving DecidableEq, Repr

/-- What a record says about its key. -/
structure KeyInfo where
  keyName : Option String := none
  retrieval : Option Retrieval := none
deriving DecidableEq, Repr

/-- One encrypted resource. Each property may hold a compression descriptor. -/
structure Record where
  id : Option String := none
  type : Option String := none
  mimeType : Option String := none
  encoding : Option String := none
  algorithm : Option String := none
  keySize : Option UInt32 := none
  keyInfo : Option KeyInfo := none
  uri : String := ""
  properties : Option (List (Option Compression)) := none
deriving DecidableEq, Repr

namespace Record

def of (uri algorithm : String) : Record := { uri, algorithm := some algorithm }

def withRetrieval (r : Record) (uri type : String) : Record :=
  { r with keyInfo := some { retrieval := some ⟨uri, type⟩ } }

def withCompression (r : Record) (c : Compression) : Record :=
  { r with properties := some [some c] }

def compression? (r : Record) : Option Compression :=
  (r.properties.getD []).findSome? (·)

end Record

abbrev Manifest := List Record

namespace Manifest

/-- The position of the first record whose cipher reference is the escaped path of `path`. A path
that cannot be escaped matches nothing. -/
def position? (manifest : Manifest) (path : String) : Option Nat :=
  (UriPath.escaped? path).bind fun uri => manifest.findIdx? (·.uri = uri)

/-- The first record whose cipher reference is the escaped path of `path`. -/
def recordFor? (manifest : Manifest) (path : String) : Option Record :=
  (manifest.position? path).bind (manifest[·]?)

/-- The manifest with `record` in place of the first one for the same resource, or behind all
others if there is none. -/
def put (record : Record) : Manifest → Manifest
  | [] => [record]
  | r :: rest => if r.uri = record.uri then record :: rest else r :: put record rest

end Manifest

end Bindery.Encryption
