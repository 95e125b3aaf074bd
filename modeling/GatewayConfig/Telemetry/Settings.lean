import GatewayConfig.Telemetry.Retry
import GatewayConfig.Url.Reference

/-!
# Telemetry settings

Where the two catalog sources are, how they are called, and what may be told to them.
-/

namespace GatewayConfig.Telemetry

/-- One of the two sources of telemetry profiles. -/
inductive SourceName where
  /-- The source of the base catalog. -/
  | primary
  /-- The source of extra profiles. -/
  | secondary
  deriving DecidableEq, Repr

/-- The path of the base catalog, unless the settings name another one. -/
def defaultPrimaryPath : String := "/loguploader/getTelemetryProfiles"

/-- Which sources are consulted, and how. -/
structure Settings where
  /-- The host of the primary source. -/
  primaryHost : Url
  /-- The path of the base catalog, as a reference beside the host. -/
  primaryPath : String := defaultPrimaryPath
  /-- Whether the secondary source is consulted. -/
  secondaryEnabled : Bool := false
  /-- The host of the secondary source. -/
  secondaryHost : Url
  /-- How long one attempt may take, in seconds. -/
  timeoutSeconds : Nat := 10
  /-- When a call is tried again. -/
  retry : RetryPolicy := {}
  /-- The partners that may be passed on. -/
  partners : List String := ["comcast", "cox"]
  /-- Whether the stored query params are appended to the primary query. -/
  appending : Bool := false
  deriving DecidableEq

/-- The host of a source. -/
def Settings.host (s : Settings) : SourceName → Url
  | .primary => s.primaryHost
  | .secondary => s.secondaryHost

end GatewayConfig.Telemetry
