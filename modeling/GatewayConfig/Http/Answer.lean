import GatewayConfig.InvalidRequest
import GatewayConfig.Json.Writer

/-!
# Answers of the API

An answer is a status, the headers that the service sets itself, and a body. Failures are written
as JSON with a code and a message. Of what went wrong in the store or at a source no word is
written: those messages are fixed.
-/

namespace GatewayConfig.Http

/-- An answer of the API. -/
structure Answer where
  /-- The status code. -/
  status : Nat
  /-- The methods that the resource allows. -/
  allow : Option String := none
  /-- The type of the body. -/
  contentType : Option String := none
  /-- The version of what the body shows. -/
  etag : Option String := none
  /-- The audit id of the request. -/
  auditId : Option String := none
  /-- The body. -/
  body : Bytes := []
  deriving DecidableEq, Repr

/-- The media type of an answer in plain text. -/
def plainText : String := "text/plain; charset=utf-8"

/-- The media type of an answer in JSON. -/
def jsonType : String := "application/json"

/-- An answer that is a line of text. -/
def Answer.text (status : Nat) (line : String) : Answer :=
  { status, contentType := some plainText, body := Bytes.ofText line }

/-- A JSON object whose members are strings, in the given order. -/
def jsonObject (members : List (String × String)) : List Char :=
  '\x7b' :: ([','].intercalate (members.map fun (name, value) =>
    Json.writeString name ++ ':' :: Json.writeString value)) ++ ['\x7d']

/-- An answer in JSON. -/
def Answer.json (status : Nat) (text : List Char) : Answer :=
  { status, contentType := some jsonType, body := Bytes.ofText (.ofList text) }

/-- Why a request fails. -/
inductive Failure where
  /-- The request has the wrong shape. -/
  | validation (detail : String)
  /-- What the request names does not exist. -/
  | notFound (detail : String)
  /-- A catalog source failed, with a status if it answered. -/
  | source (status : Option Nat) (detail : String)
  /-- The store, the merge or the encoding failed. -/
  | internal (detail : String)
  deriving DecidableEq, Repr

namespace Failure

/-- The text of a failure, for the service's own records. -/
def display : Failure → String
  | validation detail => "validation error: " ++ detail
  | notFound detail => "not found: " ++ detail
  | source _ detail => "upstream error: " ++ detail
  | internal detail => "internal error: " ++ detail

/-- The status of a failure. The status of a source is handed on when it is that of an error. -/
def status : Failure → Nat
  | validation _ => 400
  | notFound _ => 404
  | source (some status) _ => if 400 ≤ status ∧ status ≤ 599 then status else 502
  | source none _ => 502
  | internal _ => 500

/-- The code that a client can rely on. -/
def code : Failure → String
  | validation _ => "VALIDATION_ERROR"
  | notFound _ => "NOT_FOUND"
  | source _ _ => "UPSTREAM_ERROR"
  | internal _ => "INTERNAL_ERROR"

/-- What a client is told. -/
def message (f : Failure) : String :=
  match f with
  | source _ _ => "An upstream service error occurred"
  | internal _ => "An internal error occurred"
  | _ => f.display

/-- Two failures with one status and one code that name nothing of the request tell a client the
same. -/
theorem message_eq_of_code {f g : Failure} (h : f.code = g.code) (hv : f.code ≠ "VALIDATION_ERROR")
    (hn : f.code ≠ "NOT_FOUND") : f.message = g.message := by
  cases f <;> cases g <;> simp_all [code, message]

/-- The answer to a request that fails. -/
def answer (f : Failure) : Answer :=
  .json f.status ("\x7b\"error\":".toList ++
    jsonObject [("code", f.code), ("message", f.message)] ++ ['\x7d'])

end Failure

/-- Why a request is refused before anything is looked up. -/
inductive Refusal where
  /-- The path names nothing. -/
  | noRoute
  /-- The resource has other methods. -/
  | wrongMethod (allowed : List String)
  /-- A parameter of the path is not UTF-8. -/
  | pathEncoding (parameter : String)
  /-- A field of the query occurs twice. -/
  | repeatedField (name : String)
  /-- The body is too long. -/
  | bodyLength
  /-- The request has the wrong shape. -/
  | invalid (reason : InvalidRequest)
  deriving DecidableEq, Repr

/-- The answer to a request that is refused. -/
def Refusal.answer : Refusal → Answer
  | noRoute => { status := 404 }
  | wrongMethod allowed => { status := 405, allow := some (",".intercalate allowed) }
  | pathEncoding parameter =>
    .text 400 ("Invalid URL: Invalid UTF-8 in \x60" ++ parameter ++ "\x60")
  | repeatedField name =>
    .text 400 ("Failed to deserialize query string: duplicate field \x60" ++ name ++ "\x60")
  | bodyLength => .text 413 "Failed to buffer the request body: length limit exceeded"
  | invalid reason => (Failure.validation reason.message).answer

end GatewayConfig.Http
