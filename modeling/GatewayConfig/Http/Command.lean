import GatewayConfig.Http.Route
import GatewayConfig.Poke
import GatewayConfig.Store.Fetch
import GatewayConfig.Store.Params
import GatewayConfig.Telemetry.Bundle

/-!
# Commands of the API

What a request asks for, once everything about its shape has been checked. A command is read from
the request and the service's registry alone, so no request is refused for what the store or a
source holds. Running a command is the only step that looks at them.
-/

namespace GatewayConfig.Http

/-- A request whose shape is right. -/
inductive Command where
  /-- Create or replace a reference document. -/
  | putReference (id : String) (bytes : Bytes)
  /-- Read a reference document. -/
  | getReference (id : String)
  /-- Remove a reference document. -/
  | deleteReference (id : String)
  /-- Give a subdocument its payload. -/
  | link (mac : Mac) (id : String) (payload : Store.Payload)
  /-- Read a subdocument. -/
  | getDocument (mac : Mac) (id : String)
  /-- Remove the link of a subdocument. -/
  | unlink (mac : Mac) (id : String)
  /-- Fetch a group of subdocuments. -/
  | fetch (mac : Mac) (group : GroupRequest)
  /-- Replace the query params of a device. -/
  | putParams (mac : Mac) (params : String)
  /-- Read the query params of a device. -/
  | getParams (mac : Mac)
  /-- Tell a device to fetch again. -/
  | poke (mac : Mac) (target : Poke)
  /-- Assemble the telemetry bundle of a device. -/
  | bundle (mac : Mac) (selection : Telemetry.Selection)

/-- What requests are checked against. -/
structure Vocabulary where
  /-- The subdocuments. -/
  registry : Registry := .builtin
  /-- What may be poked. -/
  pokeTargets : PokeTargets := {}
  deriving DecidableEq, Repr

/-- The longest body that is read, except for documents, whose length is not limited. -/
def bodyLimit : Nat := 2097152

namespace Command

/-- The device that a path names. -/
def readMac (raw : String) : Except Refusal Mac := (Mac.parse raw).mapError .invalid

/-- The subdocument that a path names. -/
def readSubdoc (v : Vocabulary) (id : String) : Except Refusal String :=
  if v.registry.contains id then .ok id else .error (.invalid (.unknownSubdoc id))

/-- The fields of the query, none of the known ones twice. -/
def readFields (r : Request) (known : List String) : Except Refusal (List (String × String)) :=
  match repeatedName? known (r.fields.map Prod.fst) [] with
  | some name => .error (.repeatedField name)
  | none => .ok r.fields

/-- What the device reports about itself in the headers. -/
def readSelection (r : Request) : Telemetry.Selection where
  profileVersion := r.header? "X-System-Telemetry-Profile-Version"
  model := r.header? "X-System-Model-Name"
  partnerId := r.header? "X-System-PartnerID"
  accountId := r.header? "X-System-AccountID"
  firmwareVersion := r.header? "X-System-Firmware-Version"
  wanMac := r.header? "X-System-Wan-Mac"

/-- A command on a reference document. -/
def ofReference (r : Request) (raw : String) : Except Refusal Command := do
  let id ← Route.decodeParameter "ref_id" raw
  if r.effectiveMethod = "POST" then return .putReference id r.body
  else if r.effectiveMethod = "GET" then return .getReference id
  else return .deleteReference id

/-- A command on a subdocument. -/
def ofDocument (v : Vocabulary) (r : Request) (rawMac rawId : String) :
    Except Refusal Command := do
  let rawMac ← Route.decodeParameter "mac" rawMac
  let rawId ← Route.decodeParameter "subdoc_id" rawId
  let mac ← readMac rawMac
  let id ← readSubdoc v rawId
  if r.effectiveMethod = "POST" then
    let payload ← (Store.Payload.ofLinkBody r.body).mapError Refusal.invalid
    return .link mac id payload
  else if r.effectiveMethod = "GET" then return .getDocument mac id
  else return .unlink mac id

/-- A fetch of a group. -/
def ofConfig (v : Vocabulary) (r : Request) (raw : String) : Except Refusal Command := do
  let raw ← Route.decodeParameter "mac" raw
  let fields ← readFields r ["group_id"]
  let mac ← readMac raw
  let group ← (GroupRequest.parse (fields.lookup "group_id") (r.header? "If-None-Match")
    v.registry).mapError Refusal.invalid
  return .fetch mac group

/-- A command on the query params. -/
def ofParams (r : Request) (raw : String) : Except Refusal Command := do
  let raw ← Route.decodeParameter "mac" raw
  if r.effectiveMethod = "PUT" then
    if bodyLimit < r.body.length then throw .bodyLength
    let mac ← readMac raw
    match r.body.text? with
    | some params => return .putParams mac (Text.trim params)
    | none => throw (.invalid .paramsEncoding)
  else return .getParams (← readMac raw)

/-- A poke. -/
def ofPoke (v : Vocabulary) (r : Request) (raw : String) : Except Refusal Command := do
  let raw ← Route.decodeParameter "mac" raw
  let fields ← readFields r ["doc", "route"]
  let mac ← readMac raw
  let target ← (Poke.parse (fields.lookup "doc") (fields.lookup "route")
    v.pokeTargets).mapError Refusal.invalid
  return .poke mac target

/-- A request for the bundle. -/
def ofSupplementary (r : Request) (raw : String) : Except Refusal Command := do
  let raw ← Route.decodeParameter "mac" raw
  return .bundle (← readMac raw) (readSelection r)

/-- The command that a request for a resource asks for. -/
def ofRequest (v : Vocabulary) (r : Request) (route : Option Route) : Except Refusal Command :=
  match route with
  | none => .error .noRoute
  | some route =>
    if !route.methods.contains r.method then .error (.wrongMethod route.methods)
    else
      match route with
      | .reference id => ofReference r id
      | .document mac id => ofDocument v r mac id
      | .config mac => ofConfig v r mac
      | .params mac => ofParams r mac
      | .poke mac => ofPoke v r mac
      | .supplementary mac => ofSupplementary r mac
      | .probe _ => .error .noRoute

end Command

/-- An operation on the store as part of a command. -/
def stored (act : Store.Action Store.Error α) : Telemetry.Action Failure α :=
  (Telemetry.onStore act).adapt fun e => .internal e.message

/-- An answer with a version, which has to be fit for a header. -/
def versioned (version : Version) (answer : Answer) : Telemetry.Action Failure Answer :=
  if Text.isHeaderValue version.token then return { answer with etag := some version.token }
  else throw (.internal ("value " ++ Text.quoted version.token ++ " is not a valid header"))

/-- The answer that shows a document. -/
def documentAnswer (version : Version) (bytes : Bytes) : Telemetry.Action Failure Answer :=
  versioned version
    { status := 200, contentType := some Multipart.defaultContentType, body := bytes }

/-- The answer that shows a message of parts. -/
def messageAnswer (version : Version) (m : Multipart.Message) : Telemetry.Action Failure Answer :=
  versioned version { status := 200, contentType := some m.contentType, body := m.body }

/-- The failure of a group fetch. -/
def fetchFailure (e : Store.FetchError) : Failure := .internal e.message

/-- The failure of a bundle. Only a source's own failure shows a status. -/
def bundleFailure : Telemetry.BundleError → Failure
  | .source e => .source e.status? e.message
  | e => .internal e.message

/-- Carry out a command. -/
def Command.run (s : Telemetry.Settings) (c : RequestContext) :
    Command → Telemetry.Action Failure Answer
  | putReference id bytes => do
    versioned (← stored (Store.putReference id bytes)) { status := 200 }
  | getReference id => do
    match ← stored (Store.getReference id) with
    | some doc => documentAnswer doc.version doc.bytes
    | none => throw (.notFound ("reference " ++ id))
  | deleteReference id => do
    stored (Store.deleteReference id)
    return { status := 200 }
  | link mac id payload => do
    versioned (← stored (Store.link mac id payload)) { status := 200 }
  | getDocument mac id => do
    match ← stored (Store.resolve mac id) with
    | some doc => documentAnswer doc.version doc.bytes
    | none => throw (.notFound ("subdocument " ++ id ++ " of " ++ mac.text))
  | unlink mac id => do
    stored (Store.unlink mac id)
    return { status := 200 }
  | fetch mac group => do
    match ← (Telemetry.onStore (Store.fetch mac group)).adapt fetchFailure with
    | .notModified root => versioned root { status := 304 }
    | .modified root message _ => messageAnswer root message
  | putParams mac params => do
    stored (Store.setParams mac params)
    return { status := 200 }
  | getParams mac => do
    match ← stored (Store.getParams mac) with
    | some params =>
      return { status := 200, contentType := some "text/plain", body := Bytes.ofText params }
    | none => throw (.notFound ("query params of " ++ mac.text))
  | poke mac target =>
    return .json 202 (jsonObject [("mac", mac.text), ("action", target.action)])
  | bundle mac selection => do
    let b ← (Telemetry.bundle s mac selection c).adapt bundleFailure
    messageAnswer b.rootVersion b.message

end GatewayConfig.Http
