import Bindery.Zip.Inflate

/-! Packing as deflate streams. Only stored blocks are written: the streams are valid and as long
as the octets they hold, and nothing in a container depends on how well its entries are packed. -/
namespace Bindery.Zip

def blockLimit : Nat := 0xFFFF

def storedForm (last : Bool) (bytes : Bytes) : Bytes :=
  (if last then 1 else 0) :: octets 2 bytes.length ++ octets 2 (0xFFFF - bytes.length) ++ bytes

def storedBlocks (bytes : Bytes) : Bytes :=
  if bytes.length ≤ blockLimit then storedForm true bytes
  else storedForm false (bytes.take blockLimit) ++ storedBlocks (bytes.drop blockLimit)
termination_by bytes.length
decreasing_by
  simp only [List.length_drop, blockLimit] at *
  omega

def deflate (bytes : Bytes) : Bytes := storedBlocks bytes

end Bindery.Zip
