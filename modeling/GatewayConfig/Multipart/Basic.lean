import GatewayConfig.Text.Quoted
import GatewayConfig.Version

/-!
# Multipart messages

Several documents travel in one body of type `multipart/mixed`. Each part has a name (normally a
subdocument id), a media type, a version token and a payload of arbitrary bytes. A reader looks
parts up by name, so of several parts with one name only the last counts.
-/

namespace GatewayConfig.Multipart

/-- The media type of a subdocument when nothing else is said. -/
def defaultContentType : String := "application/msgpack"

/-- One named payload. -/
structure Part where
  /-- The name, normally a subdocument id. -/
  name : String
  /-- The media type of the payload. -/
  contentType : String := defaultContentType
  /-- The version token of the payload. -/
  version : Version
  /-- The payload. -/
  bytes : Bytes
  deriving DecidableEq, Repr

/-- An encoded body and the boundary between its parts. -/
structure Message where
  /-- The text that, after two dashes, separates the parts. -/
  boundary : String
  /-- The encoded body. -/
  body : Bytes
  deriving DecidableEq, Repr

/-- The value of the `Content-Type` header that goes with the body. -/
def Message.contentType (m : Message) : String := "multipart/mixed; boundary=" ++ m.boundary

/-- The line that starts a part: two dashes and the boundary. -/
def delimiter (boundary : String) : Bytes := Bytes.ofText ("--" ++ boundary)

/-- What makes a body unreadable. Parts are counted from zero. -/
inductive Fault where
  /-- The delimiter occurs nowhere. -/
  | noDelimiter
  /-- Neither a line break nor two dashes follow the delimiter that ends at the offset. -/
  | noLineBreak (offset : Nat)
  /-- No blank line ends the headers of the part. -/
  | unterminatedHeaders (index : Nat)
  /-- The headers of a part are not UTF-8. -/
  | headerEncoding
  /-- A header line has no colon. -/
  | headerLine (line : String)
  /-- The stated length is not a number of 64 bits. -/
  | contentLength (text : String) (index : Nat)
  /-- The stated length reaches past the end of the body. -/
  | truncated (index : Nat)
  /-- No delimiter stands where the stated length ends. -/
  | contentLengthEnd (index : Nat)
  /-- No delimiter follows a part that states no length. -/
  | unclosed (index : Nat)
  deriving DecidableEq, Repr

/-- The text of a fault. -/
def Fault.message : Fault → String
  | noDelimiter => "opening delimiter not found"
  | noLineBreak offset => "expected line break after delimiter at offset " ++ toString offset
  | unterminatedHeaders index => "unterminated headers in part " ++ toString index
  | headerEncoding => "part headers are not UTF-8"
  | headerLine line => "bad header line " ++ Text.quoted line
  | contentLength text index =>
    "bad Content-Length " ++ Text.quoted text ++ " in part " ++ toString index
  | truncated index => "truncated part " ++ toString index
  | contentLengthEnd index =>
    "Content-Length of part " ++ toString index ++ " does not reach the next delimiter"
  | unclosed index => "closing delimiter not found for part " ++ toString index

/-- Why a message cannot be encoded or decoded. -/
inductive Error where
  /-- The content type names no boundary. -/
  | missingBoundary (contentType : String)
  /-- The body does not split into parts. -/
  | malformed (fault : Fault)
  /-- A part has no name. -/
  | unnamedPart (index : Nat)
  /-- No boundary was found that occurs in no payload. -/
  | boundaryExhausted
  deriving DecidableEq, Repr

/-- The text of an error. -/
def Error.message : Error → String
  | missingBoundary contentType =>
    "missing multipart boundary in content type " ++ Text.quoted contentType
  | malformed fault => "malformed multipart body: " ++ fault.message
  | unnamedPart index => "multipart part " ++ toString index ++ " has no name"
  | boundaryExhausted => "could not choose a multipart boundary"

/-- Of the parts with one name, only the last; the parts that stay keep their order. -/
def lastByName : List Part → List Part
  | [] => []
  | p :: rest => if rest.any (·.name == p.name) then lastByName rest else p :: lastByName rest

end GatewayConfig.Multipart
