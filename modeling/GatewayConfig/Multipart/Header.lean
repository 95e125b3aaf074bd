import GatewayConfig.Multipart.Basic
import GatewayConfig.Text.Case
import GatewayConfig.Text.Split

/-!
# Headers of a multipart message

The boundary named by a `Content-Type` value, and the header block of one part. Header names are
compared in lower case, values are trimmed, and the last of several headers with one name counts.
-/

namespace GatewayConfig.Multipart

/-- A text without the double quotes at its ends. -/
def trimQuotes (s : String) : String :=
  .ofList ((s.toList.dropWhile (· == '"')).reverse.dropWhile (· == '"')).reverse

/-- The boundary that one parameter of a content type gives, if it gives one. -/
def boundaryOfParameter? (parameter : String) : Option String :=
  match Text.cut? '=' (Text.trim parameter) with
  | none => none
  | some (key, value) =>
    if Text.sameIgnoringCase (Text.trim key) "boundary" then
      some (trimQuotes (Text.trim value)) |>.filter (· ≠ "")
    else none

/-- The boundary that a content type gives: that of its first parameter which gives one. -/
def boundaryOf? (contentType : String) : Option String :=
  ((Text.split ';' contentType).drop 1).findSome? boundaryOfParameter?

/-- The name and the value of a header line. -/
def readHeader (line : String) : Except Error (String × String) :=
  match Text.cut? ':' line with
  | some (name, value) => .ok (Text.lower (Text.trim name), Text.trim value)
  | none => .error (.malformed (.headerLine line))

/-- The headers of a block, in order. Empty lines are skipped. -/
def readHeaders (block : Bytes) : Except Error (List (String × String)) :=
  match Bytes.text? block with
  | none => .error (.malformed .headerEncoding)
  | some text => ((Text.lines text).filter (· ≠ "")).mapM readHeader

/-- The value of the last header with the given name. -/
def header? (headers : List (String × String)) (name : String) : Option String :=
  headers.reverse.lookup name

/-- A header as it is written: name, colon, space, value and line end. -/
def writeHeader (name value : String) : Bytes :=
  Bytes.ofText name ++ [58, 32] ++ Bytes.ofText value ++ Bytes.crlf

end GatewayConfig.Multipart
