import Bindery.Text.Blank
import Bindery.Text.Utf16
import Bindery.Charset.Japanese
import Bindery.Charset.Chinese
import Bindery.Charset.Korean
import Bindery.Charset.Table.SingleByte

/-! Charsets: their names, the labels that documents use for them, and strict decoding. A byte
string that is invalid in its charset has no text; nothing is ever replaced. -/
namespace Bindery

/-- The charsets of one byte a character, whose lower half is ASCII. -/
inductive CodePage where
  | ibm866 | iso2 | iso3 | iso4 | iso5 | iso6 | iso7 | iso8 | iso8i | iso10 | iso13 | iso14
  | iso15 | iso16 | koi8r | koi8u | macintosh | windows874 | windows1250 | windows1251
  | windows1252 | windows1253 | windows1254 | windows1255 | windows1256 | windows1257
  | windows1258 | macCyrillic
deriving DecidableEq, Repr

def CodePage.name : CodePage → String
  | ibm866 => "IBM866"
  | iso2 => "ISO-8859-2"
  | iso3 => "ISO-8859-3"
  | iso4 => "ISO-8859-4"
  | iso5 => "ISO-8859-5"
  | iso6 => "ISO-8859-6"
  | iso7 => "ISO-8859-7"
  | iso8 => "ISO-8859-8"
  | iso8i => "ISO-8859-8-I"
  | iso10 => "ISO-8859-10"
  | iso13 => "ISO-8859-13"
  | iso14 => "ISO-8859-14"
  | iso15 => "ISO-8859-15"
  | iso16 => "ISO-8859-16"
  | koi8r => "KOI8-R"
  | koi8u => "KOI8-U"
  | macintosh => "macintosh"
  | windows874 => "windows-874"
  | windows1250 => "windows-1250"
  | windows1251 => "windows-1251"
  | windows1252 => "windows-1252"
  | windows1253 => "windows-1253"
  | windows1254 => "windows-1254"
  | windows1255 => "windows-1255"
  | windows1256 => "windows-1256"
  | windows1257 => "windows-1257"
  | windows1258 => "windows-1258"
  | macCyrillic => "x-mac-cyrillic"

def CodePage.upperHalf : CodePage → String
  | ibm866 => Charset.SingleByte.ibm866
  | iso2 => Charset.SingleByte.iso2
  | iso3 => Charset.SingleByte.iso3
  | iso4 => Charset.SingleByte.iso4
  | iso5 => Charset.SingleByte.iso5
  | iso6 => Charset.SingleByte.iso6
  | iso7 => Charset.SingleByte.iso7
  | iso8 => Charset.SingleByte.iso8
  | iso8i => Charset.SingleByte.iso8
  | iso10 => Charset.SingleByte.iso10
  | iso13 => Charset.SingleByte.iso13
  | iso14 => Charset.SingleByte.iso14
  | iso15 => Charset.SingleByte.iso15
  | iso16 => Charset.SingleByte.iso16
  | koi8r => Charset.SingleByte.koi8r
  | koi8u => Charset.SingleByte.koi8u
  | macintosh => Charset.SingleByte.macintosh
  | windows874 => Charset.SingleByte.windows874
  | windows1250 => Charset.SingleByte.windows1250
  | windows1251 => Charset.SingleByte.windows1251
  | windows1252 => Charset.SingleByte.windows1252
  | windows1253 => Charset.SingleByte.windows1253
  | windows1254 => Charset.SingleByte.windows1254
  | windows1255 => Charset.SingleByte.windows1255
  | windows1256 => Charset.SingleByte.windows1256
  | windows1257 => Charset.SingleByte.windows1257
  | windows1258 => Charset.SingleByte.windows1258
  | macCyrillic => Charset.SingleByte.macCyrillic

/-- The text that bytes spell in a code page; none if some byte is unassigned. -/
def CodePage.decode? (page : CodePage) (bytes : Bytes) : Option (List Char) :=
  let upper : Charset.Plane := #[page.upperHalf.toList.toArray]
  bytes.mapM fun b =>
    if Charset.isAscii b then some (Charset.byteChar b) else upper.cell? 0 (b.toNat - 0x80)

/-- The charsets that a document can be decoded from. -/
inductive Charset where
  | utf8
  | utf16 (order : Utf16.Order)
  | page (page : CodePage)
  | userDefined
  | shiftJis
  | eucJp
  | iso2022Jp
  | gbk
  | gb18030
  | big5
  | eucKr
deriving DecidableEq, Repr

namespace Charset

def name : Charset → String
  | utf8 => "UTF-8"
  | utf16 .little => "UTF-16LE"
  | utf16 .big => "UTF-16BE"
  | page p => p.name
  | userDefined => "x-user-defined"
  | shiftJis => "Shift_JIS"
  | eucJp => "EUC-JP"
  | iso2022Jp => "ISO-2022-JP"
  | gbk => "GBK"
  | gb18030 => "gb18030"
  | big5 => "Big5"
  | eucKr => "EUC-KR"

/-- The characters of a text without lower half: bytes from 80 on lie in a private area. -/
def userDefinedChar (b : UInt8) : Char :=
  if isAscii b then byteChar b else Char.ofNat (0xF780 + (b.toNat - 0x80))

def decode? (charset : Charset) (bytes : Bytes) : Option String :=
  match charset with
  | utf8 => utf8Text? bytes
  | utf16 order => (Utf16.decode? order bytes).map spell
  | page p => (p.decode? bytes).map spell
  | userDefined => some (spell (bytes.map userDefinedChar))
  | shiftJis => (Japanese.shiftJisFrom [] bytes).map spell
  | eucJp => (Japanese.eucJpFrom [] bytes).map spell
  | iso2022Jp => (Japanese.iso2022JpFrom .ascii false [] bytes).map spell
  | gbk | gb18030 => (Chinese.gb18030From [] bytes).map spell
  | big5 => (Chinese.big5From [] bytes).map spell
  | eucKr => (Korean.eucKrFrom [] bytes).map spell

/-- The labels of each charset, in lower case. Those of the last row name charsets that are not
decoded any more; a document labelled so is taken for UTF-8. -/
def labels : List (Charset × List String) := [
  (.utf8, ["unicode-1-1-utf-8", "unicode11utf8", "unicode20utf8", "utf-8", "utf8",
    "x-unicode20utf8"]),
  (.page .ibm866, ["866", "cp866", "csibm866", "ibm866"]),
  (.page .iso2, ["csisolatin2", "iso-8859-2", "iso-ir-101", "iso8859-2", "iso88592", "iso_8859-2",
    "iso_8859-2:1987", "l2", "latin2"]),
  (.page .iso3, ["csisolatin3", "iso-8859-3", "iso-ir-109", "iso8859-3", "iso88593", "iso_8859-3",
    "iso_8859-3:1988", "l3", "latin3"]),
  (.page .iso4, ["csisolatin4", "iso-8859-4", "iso-ir-110", "iso8859-4", "iso88594", "iso_8859-4",
    "iso_8859-4:1988", "l4", "latin4"]),
  (.page .iso5, ["csisolatincyrillic", "cyrillic", "iso-8859-5", "iso-ir-144", "iso8859-5",
    "iso88595", "iso_8859-5", "iso_8859-5:1988"]),
  (.page .iso6, ["arabic", "asmo-708", "csiso88596e", "csiso88596i", "csisolatinarabic", "ecma-114",
    "iso-8859-6", "iso-8859-6-e", "iso-8859-6-i", "iso-ir-127", "iso8859-6", "iso88596",
    "iso_8859-6", "iso_8859-6:1987"]),
  (.page .iso7, ["csisolatingreek", "ecma-118", "elot_928", "greek", "greek8", "iso-8859-7",
    "iso-ir-126", "iso8859-7", "iso88597", "iso_8859-7", "iso_8859-7:1987", "sun_eu_greek"]),
  (.page .iso8, ["csiso88598e", "csisolatinhebrew", "hebrew", "iso-8859-8", "iso-8859-8-e",
    "iso-ir-138", "iso8859-8", "iso88598", "iso_8859-8", "iso_8859-8:1988", "visual"]),
  (.page .iso8i, ["csiso88598i", "iso-8859-8-i", "logical"]),
  (.page .iso10, ["csisolatin6", "iso-8859-10", "iso-ir-157", "iso8859-10", "iso885910", "l6",
    "latin6"]),
  (.page .iso13, ["iso-8859-13", "iso8859-13", "iso885913"]),
  (.page .iso14, ["iso-8859-14", "iso8859-14", "iso885914"]),
  (.page .iso15, ["csisolatin9", "iso-8859-15", "iso8859-15", "iso885915", "iso_8859-15", "l9"]),
  (.page .iso16, ["iso-8859-16"]),
  (.page .koi8r, ["cskoi8r", "koi", "koi8", "koi8-r", "koi8_r"]),
  (.page .koi8u, ["koi8-ru", "koi8-u"]),
  (.page .macintosh, ["csmacintosh", "mac", "macintosh", "x-mac-roman"]),
  (.page .windows874, ["dos-874", "iso-8859-11", "iso8859-11", "iso885911", "tis-620",
    "windows-874"]),
  (.page .windows1250, ["cp1250", "windows-1250", "x-cp1250"]),
  (.page .windows1251, ["cp1251", "windows-1251", "x-cp1251"]),
  (.page .windows1252, ["ansi_x3.4-1968", "ascii", "cp1252", "cp819", "csisolatin1", "ibm819",
    "iso-8859-1", "iso-ir-100", "iso8859-1", "iso88591", "iso_8859-1", "iso_8859-1:1987", "l1",
    "latin1", "us-ascii", "windows-1252", "x-cp1252"]),
  (.page .windows1253, ["cp1253", "windows-1253", "x-cp1253"]),
  (.page .windows1254, ["cp1254", "csisolatin5", "iso-8859-9", "iso-ir-148", "iso8859-9",
    "iso88599", "iso_8859-9", "iso_8859-9:1989", "l5", "latin5", "windows-1254", "x-cp1254"]),
  (.page .windows1255, ["cp1255", "windows-1255", "x-cp1255"]),
  (.page .windows1256, ["cp1256", "windows-1256", "x-cp1256"]),
  (.page .windows1257, ["cp1257", "windows-1257", "x-cp1257"]),
  (.page .windows1258, ["cp1258", "windows-1258", "x-cp1258"]),
  (.page .macCyrillic, ["x-mac-cyrillic", "x-mac-ukrainian"]),
  (.gbk, ["chinese", "csgb2312", "csiso58gb231280", "gb2312", "gb_2312", "gb_2312-80", "gbk",
    "iso-ir-58", "x-gbk"]),
  (.gb18030, ["gb18030"]),
  (.big5, ["big5", "big5-hkscs", "cn-big5", "csbig5", "x-x-big5"]),
  (.eucJp, ["cseucpkdfmtjapanese", "euc-jp", "x-euc-jp"]),
  (.iso2022Jp, ["csiso2022jp", "iso-2022-jp"]),
  (.shiftJis, ["csshiftjis", "ms932", "ms_kanji", "shift-jis", "shift_jis", "sjis", "windows-31j",
    "x-sjis"]),
  (.eucKr, ["cseuckr", "csksc56011987", "euc-kr", "iso-ir-149", "korean", "ks_c_5601-1987",
    "ks_c_5601-1989", "ksc5601", "ksc_5601", "windows-949"]),
  (.utf16 .big, ["unicodefffe", "utf-16be"]),
  (.utf16 .little, ["csunicode", "iso-10646-ucs-2", "ucs-2", "unicode", "unicodefeff", "utf-16",
    "utf-16le"]),
  (.userDefined, ["x-user-defined"]),
  (.utf8, ["csiso2022kr", "hz-gb-2312", "iso-2022-cn", "iso-2022-cn-ext", "iso-2022-kr",
    "replacement"])]

/-- The charset of a label, whatever the case of its letters and the ASCII blanks around it. -/
def ofLabel? (label : String) : Option Charset :=
  let key := String.ofList ((trim isLabelBlank label.toList).map Char.toLower)
  (labels.find? fun (_, names) => names.contains key).map Prod.fst
where
  isLabelBlank (c : Char) : Bool := isXmlBlank c || c == '\x0c'

/-- The charset of a document whose declaration names `charset`. A declaration that was read byte
by byte cannot belong to UTF-16, so such a document is UTF-8. -/
def ofDeclared : Charset → Charset
  | utf16 _ => utf8
  | charset => charset

def ofMark? (bytes : Bytes) : Option (Charset × Nat) :=
  if [0xEF, 0xBB, 0xBF].isPrefixOf bytes then some (utf8, 3)
  else if [0xFF, 0xFE].isPrefixOf bytes then some (utf16 .little, 2)
  else if [0xFE, 0xFF].isPrefixOf bytes then some (utf16 .big, 2)
  else none

end Charset
end Bindery
