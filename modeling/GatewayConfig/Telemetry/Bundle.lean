import GatewayConfig.Mac
import GatewayConfig.RequestContext
import GatewayConfig.Store.Fetch
import GatewayConfig.Store.Params
import GatewayConfig.Telemetry.Catalog
import GatewayConfig.Telemetry.Selection
import GatewayConfig.Telemetry.Source

/-!
# The telemetry bundle of a device

The base catalog comes from the primary source. When the secondary source is enabled and the
device has query params, the extra profiles it answers with are appended. A source that knows
nothing counts as an empty catalog or as no extra profiles, but an empty catalog is taken only
where extra profiles may follow. Any other failure is a failure of the bundle.
-/

namespace GatewayConfig.Telemetry

/-- Why there is no bundle. -/
inductive BundleError where
  /-- A source failed. -/
  | source (error : SourceError)
  /-- The query params could not be read. -/
  | store (error : Store.Error)
  /-- The extra profiles could not be merged. -/
  | merge (error : MergeError)
  /-- The bundle could not be encoded. -/
  | codec (error : Multipart.Error)
  deriving DecidableEq, Repr

/-- The text of a failed bundle. -/
def BundleError.message : BundleError → String
  | source error => error.message
  | store error => error.message
  | merge error => error.message
  | codec error => error.message

/-- The encoded profiles of a device. -/
structure Bundle where
  /-- The root version over the single part. -/
  rootVersion : Version
  /-- The message with the part. -/
  message : Multipart.Message
  deriving DecidableEq, Repr

/-- The query params of a device, unless they are missing or empty. They are read only if the
settings have a use for them. -/
def storedParams (s : Settings) (mac : Mac) : Action Store.Error (Option String) :=
  if s.appending || s.secondaryEnabled then do
    let params ← onStore (Store.getParams mac)
    return params.filter (· ≠ "")
  else return none

/-- The URL of a path beside a host, with a query unless it is empty. -/
def sourceUrl (endpoint : String) (host : Url) (path query : String) : Except SourceError Url :=
  match host.join path with
  | .error fault => .error (.invalidUrl endpoint fault)
  | .ok url => .ok (if query = "" then url else url.withQuery query)

/-- Ask a source for a path. -/
def ask (s : Settings) (name : SourceName) (service path query : String) (c : RequestContext) :
    Action SourceError Bytes :=
  let endpoint := service ++ " GET " ++ path
  match sourceUrl endpoint (s.host name) path query with
  | .error e => throw e
  | .ok url => call s name endpoint url c.outboundHeaders

/-- Ask the primary source for the base catalog. -/
def askPrimary (s : Settings) (query : String) (c : RequestContext) : Action SourceError Bytes :=
  ask s .primary "xconf" s.primaryPath query c

/-- The path of a device's extra profiles. -/
def secondaryPath (mac : Mac) : String := "/api/v1/device/" ++ mac.text ++ "/profiles"

/-- Ask the secondary source for the extra profiles. -/
def askSecondary (s : Settings) (mac : Mac) (params : String) (c : RequestContext) :
    Action SourceError Bytes :=
  ask s .secondary "profiles" (secondaryPath mac) params c

/-- Take a stand-in where a source knows nothing, if that is allowed. -/
def orIfNotFound (allowed : Bool) (standIn : Bytes) (act : Action SourceError Bytes) :
    Action SourceError Bytes := fun w =>
  match act w with
  | (.error e, w) => (if allowed && e.isNotFound then .ok standIn else .error e, w)
  | done => done

/-- The name of the only part of a bundle. -/
def bundlePart : String := "telemetry"

/-- Wrap a catalog as the only part of a message. -/
def wrap (catalog : Bytes) : Action BundleError Bundle := do
  let part : Multipart.Part :=
    { name := bundlePart, version := .ofBytes catalog, bytes := catalog,
      contentType := "application/json" }
  let message ← (onStore (Store.encodeParts [part])).adapt .codec
  return ⟨Version.root [(part.name, part.version)], message⟩

/-- Assemble the bundle of a device. -/
def bundle (s : Settings) (mac : Mac) (selection : Selection) (c : RequestContext) :
    Action BundleError Bundle := do
  let params ← (storedParams s mac).adapt .store
  let partner := knownPartner? s.partners selection.partnerId
  let query := selection.toQuery mac partner (if s.appending then params else none)
  let base ← (orIfNotFound s.secondaryEnabled emptyCatalog (askPrimary s query c)).adapt .source
  match params with
  | some params =>
    if s.secondaryEnabled then
      let extra ← (orIfNotFound true [] (askSecondary s mac params c)).adapt .source
      match appendProfiles base extra with
      | .error e => throw (.merge e)
      | .ok catalog => wrap catalog
    else wrap base
  | none => wrap base

end GatewayConfig.Telemetry
