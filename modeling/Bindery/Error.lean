/-! Causes of failure and their wording. Every reader, writer and codec of the library fails with
one `Error`: a category and, inside it, the cause. The wording stands in the `message` functions
alone, so that nothing else depends on it. -/
namespace Bindery

/-- Why a stream could not be read or written. -/
inductive StreamFault where
  | device (words : String)
  /-- A destination refused a write; the number counts its refusals so far. -/
  | writeRefused (count : Nat)
  | flushRefused
  /-- A source entry ended after another number of bytes than its header declares. -/
  | wrongLength (yielded declared : Nat)
  | checksum
  | corrupt
  | brokenOff
  | noFile
deriving DecidableEq, Repr

def StreamFault.message : StreamFault → String
  | device words => words
  | writeRefused count => s!"write {count} refused"
  | flushRefused => "flush refused"
  | wrongLength yielded declared => s!"entry yielded {yielded} bytes but declares {declared}"
  | checksum => "invalid checksum"
  | corrupt => "corrupt deflate stream"
  | brokenOff => "a record breaks off"
  | noFile => "no such file"

/-- What was asked for and does not exist. -/
inductive Missing where
  | manifest (location : String)
  | container (location : String)
  | entry (path : String)
  | resource (words : String)
deriving DecidableEq, Repr

def Missing.message : Missing → String
  | manifest location => s!"could not find manifest {location}"
  | container location => s!"could not find container {location}"
  | entry path => s!"resource {path} is not in the container"
  | resource words => words

/-- Why a text is not well-formed markup. -/
inductive MarkupFault where
  | unclosed (what : String)
  | badReference
  | badDeclaration
  | unmatchedEnd (name : String)
  | reservedPrefix (name : String)
deriving DecidableEq, Repr

def MarkupFault.message : MarkupFault → String
  | unclosed what => s!"{what} is not closed"
  | badReference => "a reference has no semicolon"
  | badDeclaration => "unknown or empty markup declaration"
  | unmatchedEnd name => s!"end tag '{name}' matches no open element"
  | reservedPrefix name => s!"prefix '{name}' cannot be bound to this name"

/-- Why the attributes of a tag cannot be read. -/
inductive AttributeFault where
  | noEquals
  | noValue
  | unquoted
  | unclosed
  | duplicate (name : String)
deriving DecidableEq, Repr

def AttributeFault.message : AttributeFault → String
  | noEquals => "a name must be followed by ="
  | noValue => "= must be followed by a value"
  | unquoted => "a value must be quoted"
  | unclosed => "a value has no closing quote"
  | duplicate name => s!"attribute {name} occurs twice"

/-- Why a document, an archive or a reference is not in the form it should have. -/
inductive FormatFault where
  | unsupportedCharset (label : String)
  | undecodable (charset : String)
  | unexpectedRoot (space found : String)
  | noRoot
  | unterminatedRecord
  | badNumber (what text : String)
  | badAttributeValue (raw : String)
  | badAttributeBytes
  | attributes (fault : AttributeFault)
  | markup (fault : MarkupFault)
  | json (reason : String)
  | archive (reason : String)
  | unknownContainer (manifest container : String)
  | badReference (path : String)
deriving DecidableEq, Repr

def FormatFault.message : FormatFault → String
  | unsupportedCharset label => s!"unsupported charset '{label}'"
  | undecodable charset => s!"document is not valid {charset}"
  | unexpectedRoot space found => s!"expected root element <encryption> in {space}, found <{found}>"
  | noRoot => "encryption manifest has no root element"
  | unterminatedRecord => "unterminated EncryptedData element"
  | badNumber what text => s!"invalid {what}: '{text}'"
  | badAttributeValue raw => s!"invalid attribute value '{raw}': no entity of that form"
  | badAttributeBytes => "invalid UTF-8 in attribute value"
  | attributes fault => s!"XML attribute: {fault.message}"
  | markup fault => s!"XML manifest: {fault.message}"
  | json reason => s!"JSON manifest: {reason}"
  | archive reason => s!"invalid container: {reason}"
  | unknownContainer manifest container => s!"archive has neither {manifest} nor {container}"
  | badReference path => s!"'{path}' is not a valid relative URI reference"

/-- Which step came out of sequence. -/
inductive SequenceFault where
  | abandoned (path : String)
  | unmatched (path : String)
deriving DecidableEq, Repr

def SequenceFault.message : SequenceFault → String
  | abandoned path =>
    s!"entry '{path}' was opened but never finished; the destination is unusable"
  | unmatched path =>
    s!"cannot mark '{path}' as encrypted: no entry was written at that path"

/-- Why settings could not be loaded. -/
inductive SettingsFault where
  | unreadable
  | malformed (reason : String)
deriving DecidableEq, Repr

def SettingsFault.message : SettingsFault → String
  | unreadable => "cannot read the settings file"
  | malformed reason => reason

/-- The category of a failure with its cause. -/
inductive Error where
  | stream (fault : StreamFault)
  | missing (what : Missing)
  | format (fault : FormatFault)
  | sequence (fault : SequenceFault)
  | settings (fault : SettingsFault)
deriving DecidableEq, Repr

def Error.message : Error → String
  | stream fault => s!"IO error: {fault.message}"
  | missing what => s!"Not found: {what.message}"
  | format fault => s!"Format error: {fault.message}"
  | sequence fault => s!"Invalid state: {fault.message}"
  | settings fault => s!"Configuration error: {fault.message}"

def Error.isMissing : Error → Bool
  | missing _ => true
  | _ => false

abbrev Result := Except Error

end Bindery
