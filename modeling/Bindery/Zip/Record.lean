import Bindery.Text.Bytes

/-! Records of an archive file: a signature, and numbers in places of fixed width behind it. -/
namespace Bindery.Zip

def localSignature : Bytes := [0x50, 0x4B, 0x03, 0x04]

def centralSignature : Bytes := [0x50, 0x4B, 0x01, 0x02]

def endSignature : Bytes := [0x50, 0x4B, 0x05, 0x06]

def wideEndSignature : Bytes := [0x50, 0x4B, 0x06, 0x06]

def locatorSignature : Bytes := [0x50, 0x4B, 0x06, 0x07]

/-- The first `width` octets of a file from a position on, if the file has as many. -/
def slice? (file : Bytes) (position width : Nat) : Option Bytes :=
  let part := (file.drop position).take width
  if part.length = width then some part else none

def fieldAt (record : Bytes) (position width : Nat) : Nat :=
  littleEndian ((record.drop position).take width)

def record? (signature file : Bytes) (position width : Nat) : Option Bytes :=
  (slice? file position width).filter (signature.isPrefixOf ·)

/-- The number that stands in a place of four octets for one that is too wide for it. -/
def wideMark : Nat := 0xFFFFFFFF

end Bindery.Zip
