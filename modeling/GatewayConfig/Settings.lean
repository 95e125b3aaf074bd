import GatewayConfig.Poke
import GatewayConfig.Telemetry.Settings
import GatewayConfig.Text.Number
import GatewayConfig.Text.Quoted

/-!
# Settings of the service

All settings come from the environment, each with a default. A variable whose value is not UTF-8
counts as unset. A number that cannot be read counts as unset too, but a switch or a URL that
cannot be read stops the start: the first such variable is named.
-/

namespace GatewayConfig

/-- The variables that are set, each with its value. -/
abbrev Environment := List (String × Bytes)

/-- Why the settings cannot be read. -/
inductive SettingsError where
  /-- A URL is not one. The subject is the variable, or the text itself. -/
  | url (subject : String) (fault : Url.Fault)
  /-- A switch is neither on nor off. -/
  | switch (variableName raw : String)
  deriving DecidableEq, Repr

/-- The text of an error. -/
def SettingsError.message : SettingsError → String
  | url subject fault => "invalid URL for " ++ subject ++ ": " ++ fault.message
  | switch name raw => "invalid boolean for " ++ name ++ ": " ++ Text.quoted raw

namespace Environment

/-- The text of a variable. -/
def text? (env : Environment) (name : String) : Option String :=
  (env.lookup name).bind fun value => Bytes.text? value

/-- A number of so many bits, or the default. -/
def number (env : Environment) (name : String) (bits default : Nat) : Nat :=
  ((env.text? name).bind fun s => Text.unsignedBits? bits (Text.trim s)).getD default

/-- A comma-separated list, or the default. -/
def list (env : Environment) (name : String) (default : List String) : List String :=
  ((env.text? name).map Text.commaList).getD default

/-- The spellings of a switch, in small letters. -/
def readSwitch (s : String) : Option Bool :=
  if ["true", "1", "yes"].contains s then some true
  else if ["false", "0", "no"].contains s then some false
  else none

/-- A switch, which is off by default. -/
def switch (env : Environment) (name : String) : Except SettingsError Bool :=
  match env.text? name with
  | none => .ok false
  | some raw =>
    match readSwitch (Text.lower (Text.trim raw)) with
    | some on => .ok on
    | none => .error (.switch name raw)

/-- A URL, or the default. -/
def url (env : Environment) (name default : String) : Except SettingsError Url :=
  (Url.parse ((env.text? name).getD default)).mapError (.url name)

end Environment

/-- What the service is started with. -/
structure Settings where
  /-- The TCP number it listens on. -/
  portNumber : Nat := 8080
  /-- How long one request may take, in seconds. -/
  requestTimeoutSeconds : Nat := 30
  /-- The ids that are registered beside the built-in ones. -/
  extraIds : List String := []
  /-- What may be poked. -/
  pokeTargets : PokeTargets := {}
  /-- The catalog sources. -/
  telemetry : Telemetry.Settings
  deriving DecidableEq

namespace Settings

/-- The registry of a service with these settings. -/
def registry (s : Settings) : Registry := Registry.builtin.registerAll s.extraIds

/-- The telemetry settings of the environment. -/
def telemetryOfEnvironment (env : Environment) : Except SettingsError Telemetry.Settings := do
  let primaryHost ← env.url "WEBCFG_XCONF_HOST" "http://localhost:12346"
  let secondaryEnabled ← env.switch "WEBCFG_PROFILES_ENABLED"
  let secondaryHost ← env.url "WEBCFG_PROFILES_HOST" "http://localhost:12347"
  let appending ← env.switch "WEBCFG_SUPPLEMENTARY_APPENDING_ENABLED"
  return {
    primaryHost, secondaryEnabled, secondaryHost, appending
    primaryPath := (env.text? "WEBCFG_XCONF_PATH").getD Telemetry.defaultPrimaryPath
    timeoutSeconds := env.number "WEBCFG_UPSTREAM_TIMEOUT_SECS" 64 10
    retry := {
      maxRetries := env.number "WEBCFG_UPSTREAM_RETRIES" 32 3
      baseDelay := .ofMillis (env.number "WEBCFG_UPSTREAM_RETRY_BASE_MS" 64 200) }
    partners := env.list "WEBCFG_VALID_PARTNERS" ["comcast", "cox"] }

/-- The settings of the environment. -/
def ofEnvironment (env : Environment) : Except SettingsError Settings := do
  let targets : PokeTargets := {}
  let telemetry ← telemetryOfEnvironment env
  return {
    portNumber := env.number "WEBCFG_PORT" 16 8080
    requestTimeoutSeconds := env.number "WEBCFG_REQUEST_TIMEOUT_SECS" 64 30
    extraIds := env.list "WEBCFG_EXTRA_SUBDOC_IDS" []
    pokeTargets := {
      docs := env.list "WEBCFG_POKE_DOCS" targets.docs
      routes := env.list "WEBCFG_POKE_ROUTES" targets.routes }
    telemetry }

/-- A URL that is given and not looked up, so that an error names the text itself. -/
def givenUrl (raw : String) : Except SettingsError Url := (Url.parse raw).mapError (.url raw)

/-- Settings for sources on the same machine, with short waits. The secondary source is enabled
when its host is given. -/
def ofLocalHosts (primary : String) (secondary : Option String) :
    Except SettingsError Settings := do
  let primaryHost ← givenUrl primary
  let secondaryHost ← givenUrl (secondary.getD "http://127.0.0.1:1")
  return {
    portNumber := 0
    requestTimeoutSeconds := 5
    telemetry := {
      primaryHost, secondaryHost
      secondaryEnabled := secondary.isSome
      timeoutSeconds := 5
      retry := { maxRetries := 2, baseDelay := .ofMillis 1 } } }

end Settings

end GatewayConfig
