import GatewayConfig.Form
import GatewayConfig.Text.Case
import GatewayConfig.Text.Header
import GatewayConfig.Text.Split

/-!
# Requests of the API

A request as it arrives: a method, a URI, headers and a body. Of headers with one name only the
first counts. The names of headers ignore case, and methods do not.
-/

namespace GatewayConfig.Http

/-- A request of the API. -/
structure Request where
  /-- The method. -/
  method : String
  /-- Path and query, which a scheme and a host may precede. -/
  uri : String
  /-- Names and values of the headers, in order. -/
  headers : List (String × Bytes) := []
  /-- The body. -/
  body : Bytes := []
  deriving DecidableEq, Repr

namespace Request

/-- The text of a header. One that holds more than visible ASCII counts as missing. -/
def header? (r : Request) (name : String) : Option String :=
  (r.headers.find? fun h => Text.sameIgnoringCase h.1 name).bind fun h => Text.headerText? h.2

/-- The URI without its fragment. -/
def shownUri (r : Request) : String :=
  match Text.cut? '#' r.uri with
  | some (before, _) => before
  | none => r.uri

/-- Path and query. A URI that names a scheme and a host names its path after them, and the path
is then never empty. -/
def resource (r : Request) : String :=
  match Text.cut? ':' r.shownUri with
  | some (scheme, rest) =>
    if rest.startsWith "//" && !scheme.toList.contains '/' then
      let named := (rest.toList.drop 2).dropWhile fun c => c != '/' && c != '?'
      .ofList (if named.head? = some '/' then named else '/' :: named)
    else r.shownUri
  | none => r.shownUri

/-- The path, still encoded. -/
def path (r : Request) : String :=
  match Text.cut? '?' r.resource with
  | some (before, _) => before
  | none => r.resource

/-- The fields of the query, in order. -/
def fields (r : Request) : List (String × String) :=
  match Text.cut? '?' r.resource with
  | some (_, query) => Form.read (Bytes.ofText query)
  | none => []

/-- The method that decides what is done: a `HEAD` request is a `GET` request whose answer loses
its body. -/
def effectiveMethod (r : Request) : String := if r.method = "HEAD" then "GET" else r.method

end Request

/-- The first name that occurs a second time, of those that count. -/
def repeatedName? (known : List String) : List String → List String → Option String
  | [], _ => none
  | name :: rest, seen =>
    if known.contains name && seen.contains name then some name
    else repeatedName? known rest (name :: seen)

end GatewayConfig.Http
