import GatewayConfig.Http.Answer
import GatewayConfig.Http.Request

/-!
# Resources of the API

The paths that name a resource, the parameters in them, and the methods each resource has. A
parameter is one segment of the path in percent encoding. It may be empty unless the path ends
with it.
-/

namespace GatewayConfig.Http

/-- A question about the service itself. -/
inductive Probe where
  /-- Whether the service runs. -/
  | liveness
  /-- Whether the store answers. -/
  | readiness
  deriving DecidableEq, Repr

/-- A resource, with its parameters as the path spells them. -/
inductive Route where
  /-- A reference document. -/
  | reference (id : String)
  /-- A subdocument of a device. -/
  | document (mac id : String)
  /-- The configuration of a device. -/
  | config (mac : String)
  /-- The query params of a device. -/
  | params (mac : String)
  /-- The wake-up call for a device. -/
  | poke (mac : String)
  /-- The telemetry bundle of a device. -/
  | supplementary (mac : String)
  /-- A probe. -/
  | probe (probe : Probe)
  deriving DecidableEq, Repr

namespace Route

/-- The resource that the segments after `/api/v1/device` and the device name. -/
def ofDevicePath? (mac : String) : List String → Option Route
  | ["document", id] => if id = "" then none else some (.document mac id)
  | ["config"] => some (.config mac)
  | ["query_params"] => some (.params mac)
  | ["poke"] => some (.poke mac)
  | ["supplementary"] => some (.supplementary mac)
  | _ => none

/-- The resource that a path names. -/
def ofPath? (path : String) : Option Route :=
  match Text.split '/' path with
  | ["", "api", "v1", "reference", id, "document"] => some (.reference id)
  | "" :: "api" :: "v1" :: "device" :: mac :: rest => ofDevicePath? mac rest
  | ["", "health", "liveness"] => some (.probe .liveness)
  | ["", "health", "readiness"] => some (.probe .readiness)
  | _ => none

/-- The methods of a resource. -/
def methods : Route → List String
  | reference _ => ["POST", "GET", "HEAD", "DELETE"]
  | document _ _ => ["POST", "GET", "HEAD", "DELETE"]
  | config _ => ["GET", "HEAD"]
  | params _ => ["PUT", "GET", "HEAD"]
  | poke _ => ["POST"]
  | supplementary _ => ["GET", "HEAD"]
  | probe _ => ["GET", "HEAD"]

/-- The text that a parameter of the path stands for. -/
def decodeParameter (name raw : String) : Except Refusal String :=
  match Bytes.text? (Percent.decode (Bytes.ofText raw)) with
  | some text => .ok text
  | none => .error (.pathEncoding name)

/-- A parameter is refused only for its encoding. -/
theorem decodeParameter_eq_error {name raw : String} {refusal : Refusal}
    (h : decodeParameter name raw = .error refusal) : refusal = .pathEncoding name := by
  unfold decodeParameter at h
  split at h
  · cases h
  · exact (Except.error.inj h).symm

end Route

end GatewayConfig.Http
