import Bindery.Text.Lossy

/-! Names of archive members. A flag in the member's header says whether its name is UTF-8; any
other name is in the charset of the first personal computers, in which every octet is a
character. -/
namespace Bindery.Zip

def upperHalf : Array Char := (
  "ÇüéâäàåçêëèïîìÄÅÉæÆôöòûùÿÖÜ¢£¥₧ƒ" ++
  "áíóúñÑªº¿⌐¬½¼¡«»░▒▓│┤╡╢╖╕╣║╗╝╜╛┐" ++
  "└┴┬├─┼╞╟╚╔╩╦╠═╬╧╨╤╥╙╘╒╓╫╪┘┌█▄▌▐▀" ++
  "αßΓπΣσµτΦΘΩδ∞φε∩≡±≥≤⌠⌡÷≈°∙·√ⁿ²■\u00a0").toList.toArray

def nameChar (b : UInt8) : Char :=
  if b.toNat < 0x80 then Char.ofNat b.toNat else upperHalf[b.toNat - 0x80]?.getD Lossy.replacement

def nameOf (isUtf8 : Bool) (bytes : Bytes) : String :=
  if isUtf8 then Lossy.decode bytes else spell (bytes.map nameChar)

end Bindery.Zip
