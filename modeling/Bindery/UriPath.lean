import Bindery.Text.Bytes

/-! The escaped path of a URI reference, the form in which cipher references are compared. Query
and fragment are dropped, a path that is escaped already is kept as it is, and any other is decoded
and escaped anew. Nothing else is normalised, so `./a.xhtml` and `a.xhtml` stay distinct. -/
namespace Bindery.UriPath

def upTo (stop : Char → Bool) (s : List Char) : List Char := s.takeWhile (! stop ·)

def isLetter (c : Char) : Bool := ('a' ≤ c && c ≤ 'z') || ('A' ≤ c && c ≤ 'Z')

def isDigit (c : Char) : Bool := '0' ≤ c && c ≤ '9'

def isSchemeChar (c : Char) : Bool :=
  isLetter c || isDigit c || c == '+' || c == '-' || c == '.'

def afterScheme? (s : List Char) : Option (List Char) :=
  match s.dropWhile isSchemeChar with
  | ':' :: rest => if (s.head?.map isLetter).getD false then some rest else none
  | _ => none

/-- The path of a reference without query and fragment: scheme and authority are dropped, a
reference with a scheme and no leading slash has no path, and a relative one may have no colon in
its first segment. -/
def component? (s : List Char) : Option (List Char) :=
  match afterScheme? s with
  | some ('/' :: '/' :: rest) => some (rest.dropWhile (· ≠ '/'))
  | some ('/' :: rest) => some ('/' :: rest)
  | some _ => some []
  | none => if (upTo (· == '/') s).contains ':' then none else some s

def escapesValid : List Char → Bool
  | [] => true
  | '%' :: a :: b :: rest =>
    (hexValue? a).isSome && (hexValue? b).isSome && escapesValid rest
  | '%' :: _ => false
  | _ :: rest => escapesValid rest

def isPlain (c : Char) : Bool :=
  isLetter c || isDigit c || "-_.~$&+,/:;=@".toList.contains c

def isEscapedForm (c : Char) : Bool := isPlain c || "!'()*[]%".toList.contains c

/-- The octets that a text with percent escapes stands for. A percent sign without two digits
stands for itself. -/
def decodeFrom (seen : Bytes) : List Char → Bytes
  | [] => seen.reverse
  | '%' :: a :: b :: rest =>
    match hexValue? a, hexValue? b with
    | some high, some low => decodeFrom (UInt8.ofNat (16 * high + low) :: seen) rest
    | _, _ => decodeFrom (('%'.toUInt8) :: seen) (a :: b :: rest)
  | c :: rest => decodeFrom ((String.utf8EncodeChar c).reverse ++ seen) rest
termination_by s => s.length

def decode (s : List Char) : Bytes := decodeFrom [] s

def escapeByte (b : UInt8) : List Char :=
  ['%', hexDigit (b.toNat / 16), hexDigit (b.toNat % 16)]

def escape (bytes : Bytes) : List Char :=
  bytes.flatMap fun b =>
    let c := Char.ofNat b.toNat
    if isPlain c then [c] else escapeByte b

def isControl (c : Char) : Bool := c < ' ' || c == '\x7f'

/-- The escaped path of a URI reference. None if the reference holds a control character, a
percent sign without two hexadecimal digits or escapes that are no UTF-8, or if it is relative
with a colon in its first segment. -/
def escaped? (reference : String) : Option String :=
  if reference.toList.any isControl then none
  else do
    let raw ← component? (upTo (· == '?') (upTo (· == '#') reference.toList))
    if !escapesValid raw then none
    else if raw.all isEscapedForm then some (spell raw)
    else
      let text ← utf8Text? (decode raw)
      some (spell (escape (utf8Bytes text)))

end Bindery.UriPath
