import Bindery.Text.Bytes

/-! The checksum of archive members: CRC-32 with the reflected polynomial, taken one bit at a time.
It detects damage and is no proof of origin. -/
namespace Bindery.Zip

def polynomial : UInt32 := 0xEDB88320

/-- One bit of the division: shift, and subtract the polynomial if a one fell out. -/
def divideBit (c : UInt32) : UInt32 :=
  if c &&& 1 = 1 then polynomial ^^^ (c >>> 1) else c >>> 1

def divideByte (c : UInt32) (b : UInt8) : UInt32 :=
  Nat.repeat divideBit 8 (c ^^^ b.toUInt32)

def checksum (bytes : Bytes) : UInt32 := ~~~ bytes.foldl divideByte (~~~ 0)

end Bindery.Zip
