import GatewayConfig.Multipart.Header

/-!
# Writing a multipart message

The parts are written in order. A boundary may be used only when its delimiter occurs in no
payload, so that a reader which scans for delimiters finds the same parts. A boundary that is not
given is drawn, and a drawn one that is taken is replaced by the next.
-/

namespace GatewayConfig.Multipart

/-- Whether the delimiter of a boundary occurs in no payload. -/
def isFree (parts : List Part) (boundary : String) : Bool :=
  parts.all fun p => !(delimiter boundary).occursIn p.bytes

/-- The header block of a part, with the blank line that ends it. -/
def writeHeaders (p : Part) : Bytes :=
  writeHeader "Content-Type" p.contentType ++ writeHeader "Namespace" p.name ++
    writeHeader "Etag" p.version.token ++
    writeHeader "Content-Length" (toString p.bytes.length) ++ Bytes.crlf

/-- A part from its delimiter to the line end after its payload. -/
def writePart (boundary : String) (p : Part) : Bytes :=
  delimiter boundary ++ Bytes.crlf ++ writeHeaders p ++ p.bytes ++ Bytes.crlf

/-- The body that holds the parts under a boundary. -/
def writeBody (boundary : String) (parts : List Part) : Bytes :=
  parts.flatMap (writePart boundary) ++ delimiter boundary ++ [45, 45] ++ Bytes.crlf

/-- Encode the parts under the given boundary. -/
def encodeWith (parts : List Part) (boundary : String) : Except Error Message :=
  if boundary ≠ "" ∧ isFree parts boundary = true then .ok ⟨boundary, writeBody boundary parts⟩
  else .error .boundaryExhausted

/-- The boundary made from the next identifier of the supply. -/
def drawBoundary (s : UuidSupply) : String × UuidSupply := ("webcfg-" ++ s.drawHex.1, s.drawHex.2)

/-- Encode the parts under the first free one of at most the given number of drawn boundaries. -/
def encodeWithin : Nat → List Part → UuidSupply → Except Error Message × UuidSupply
  | 0, _, s => (.error .boundaryExhausted, s)
  | attempts + 1, parts, s =>
    let (boundary, s) := drawBoundary s
    if isFree parts boundary then (encodeWith parts boundary, s)
    else encodeWithin attempts parts s

/-- How many boundaries are drawn before the choice is given up. -/
def boundaryAttempts : Nat := 8

/-- Encode the parts under a drawn boundary. -/
def encode (parts : List Part) (s : UuidSupply) : Except Error Message × UuidSupply :=
  encodeWithin boundaryAttempts parts s

end GatewayConfig.Multipart
