import Bindery.Zip.Member
import Bindery.Zip.MemberName
import Bindery.Zip.Record

/-! Headers of the directory and the extra fields behind them. A field has a kind, a length, and
content, and may overrule the header: with numbers that are too wide for their places, a name or a
comment in UTF-8, or the method of an encrypted member. Times are read past, and so are fields of
other kinds. A field of a known kind takes the octets that its kind needs; the next field starts
behind those, whatever length was stated. -/
namespace Bindery.Zip

/-- What the directory says of a member. -/
structure Header where
  rawName : Bytes
  name : String
  comment : String
  code : Nat
  checksum : UInt32
  size : Nat
  packedSize : Nat
  offset : Nat
  encrypted : Bool
  cipherGiven : Bool := false
deriving DecidableEq, Repr

abbrev Reading := StateT Bytes Result

namespace Reading

/-- The next octets; it is a fault if there are not as many. -/
def nextOr (fault : Error) (width : Nat) : Reading Bytes := fun rest =>
  if rest.length < width then .error fault else .ok (rest.take width, rest.drop width)

def next (width : Nat) : Reading Bytes := nextOr (.stream .brokenOff) width

def number (width : Nat) : Reading Nat := littleEndian <$> next width

def demand (condition : Bool) (reason : String) : Reading Unit :=
  if condition then pure () else throw (.format (.archive reason))

end Reading

namespace Header

open Reading

def shortField : Error := .format (.archive "an extra field is too short")

/-- A number that the field for wide numbers may overrule, and the octets that this takes. All
numbers are there if the field has room for them, and else those whose place holds the mark. -/
def wideNumber (all : Bool) (number : Nat) : Reading (Nat × Nat) := do
  if all || number = wideMark then return (littleEndian (← nextOr shortField 8), 8)
  else return (number, 0)

def wideNumbers (length : Nat) (h : Header) : Reading Header := do
  let all : Bool := 24 ≤ length
  let (size, a) ← wideNumber all h.size
  let (packedSize, b) ← wideNumber all h.packedSize
  let (offset, c) ← wideNumber all h.offset
  demand (a + b + c ≤ length) "a field of wide numbers has the wrong length"
  let _ ← nextOr shortField (length - (a + b + c))
  return { h with size, packedSize, offset }

def fineTimes (length : Nat) : Reading Unit := do
  demand (length = 32) "a field of times has the wrong length"
  let _ ← next 4
  demand ((← number 2) = 1) "a field of times holds something else"
  demand ((← number 2) = 24) "a field of times has the wrong size"
  let _ ← next 24

/-- Reads past a field with times in seconds. Its first octet marks those that the local header
has; only one need stand here. -/
def coarseTimes (length : Nat) : Reading Unit := do
  let marks ← number 1
  demand (length = 5 || length = 1 + 4 * (List.range 8).countP marks.testBit)
    "a field of times does not hold those that it marks"
  let _ ← next (4 * if length = 5 then 1 else (List.range 3).countP marks.testBit)

/-- A text that stands in for an older one. It counts only while the older text is the one whose
checksum it holds. -/
def standIn (length : Nat) (old : Bytes) : Reading Bytes := do
  let _ ← next 1
  let checksum ← number 4
  demand (5 ≤ length) "a field of text is too short"
  let text ← next (length - 5)
  demand (checksum = (Zip.checksum old).toNat) "a field of text belongs to another text"
  return text

def decoded (bytes : Bytes) : Reading String :=
  match utf8Text? bytes with
  | some text => pure text
  | none => throw (.format (.archive "a field of text is not UTF-8"))

/-- The header behind a field that tells how the member is encrypted. The field holds the number
of the method of what is encrypted. -/
def cipher (length : Nat) (h : Header) : Reading Header := do
  demand (length = 7) "a field of encryption has the wrong length"
  let version ← number 2
  let vendor ← number 2
  let strength := littleEndian (← nextOr shortField 1)
  let code ← number 2
  demand (vendor = 0x4541) "encryption of an unknown vendor"
  demand (version = 1 || version = 2) "encryption of an unknown version"
  demand (1 ≤ strength && strength ≤ 3) "encryption of an unknown strength"
  return { h with code, cipherGiven := true }

def field (kind length : Nat) (h : Header) : Reading Header := do
  match kind with
  | 0x0001 => h.wideNumbers length
  | 0x000A => do
    fineTimes length
    return h
  | 0x5455 => do
    coarseTimes length
    return h
  | 0x6375 => return { h with comment := ← decoded (← standIn length (utf8Bytes h.comment)) }
  | 0x7075 => do
    let rawName ← standIn length h.rawName
    return { h with rawName, name := ← decoded rawName }
  | 0x9901 => h.cipher length
  | _ => do
    let _ ← nextOr shortField length
    return h

/-- The header behind all extra fields in some octets. A single octet at the end is no field. -/
def extend (h : Header) : (fuel : Nat) → Bytes → Result Header
  | 0, _ => .ok h
  | fuel + 1, rest =>
    if rest.length < 2 then .ok h
    else do
      let step : Reading Header := do
        let kind ← number 2
        let length ← number 2
        h.field kind length
      let (h, rest) ← step.run rest
      h.extend fuel rest

/-- The number of the method that stands for encrypted content. What is encrypted must then be
told by an extra field. -/
def encryptedCode : Nat := 99

def ofRecord (record name extra comment : Bytes) : Result Header := do
  let flags := fieldAt record 8 2
  let written : Header := {
    rawName := name
    name := nameOf (flags.testBit 11) name
    comment := nameOf (flags.testBit 11) comment
    code := fieldAt record 10 2
    checksum := UInt32.ofNat (fieldAt record 16 4)
    size := fieldAt record 24 4
    packedSize := fieldAt record 20 4
    offset := fieldAt record 42 4
    encrypted := flags.testBit 0 }
  -- every field takes at least four octets
  let h ← written.extend extra.length extra
  if h.code = encryptedCode ∧ h.cipherGiven = false then unsound "encryption without a cipher"
  else return h

def member (h : Header) (packed : Bytes) : Member where
  name := h.name
  packing := .ofCode h.code
  checksum := h.checksum
  size := h.size
  packedSize := h.packedSize
  packed
  encrypted := h.encrypted || h.cipherGiven

end Header
end Bindery.Zip
