/-! Media types: the guess from the extension of a path, and which types are compressed already. -/
namespace Bindery.MediaType

/-- What follows the last point of a path, in lower case; nothing if there is no point. -/
def extension (path : String) : String :=
  let chars := path.toList
  if chars.contains '.' then
    spellLower (chars.reverse.takeWhile (· ≠ '.')).reverse
  else ""
where
  spellLower (cs : List Char) : String := String.ofList (cs.map Char.toLower)

def guess (path : String) : String :=
  match extension path with
  | "xhtml" | "xht" => "application/xhtml+xml"
  | "html" | "htm" => "text/html"
  | "opf" => "application/oebps-package+xml"
  | "ncx" => "application/x-dtbncx+xml"
  | "xml" => "application/xml"
  | "css" => "text/css"
  | "js" => "application/javascript"
  | "svg" => "image/svg+xml"
  | "png" => "image/png"
  | "jpg" | "jpeg" => "image/jpeg"
  | "gif" => "image/gif"
  | "webp" => "image/webp"
  | "otf" => "font/otf"
  | "ttf" => "font/ttf"
  | "woff" => "font/woff"
  | "woff2" => "font/woff2"
  | "mp3" => "audio/mpeg"
  | "m4a" | "mp4a" => "audio/mp4"
  | "ogg" | "oga" => "audio/ogg"
  | "mp4" | "m4v" => "video/mp4"
  | "webm" => "video/webm"
  | "smil" => "application/smil+xml"
  | "pdf" => "application/pdf"
  | _ => "application/octet-stream"

/-- Whether content of this type is compressed by its own format. SVG is text. -/
def isPrecompressed (mediaType : String) : Bool :=
  if mediaType = "image/svg+xml" then false
  else ["image/", "audio/", "video/"].any (·.toList.isPrefixOf mediaType.toList) ||
    mediaType = "font/woff" || mediaType = "font/woff2"

end Bindery.MediaType
