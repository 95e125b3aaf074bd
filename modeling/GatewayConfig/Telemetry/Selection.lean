import GatewayConfig.Form
import GatewayConfig.Mac
import GatewayConfig.Text.Split

/-!
# Selecting telemetry profiles

A device reports what it is, and the primary catalog source answers with the profiles for it. The
report becomes a query in form encoding, so that no reported value can add a field of its own.
Only partners that the settings list are passed on.
-/

namespace GatewayConfig.Telemetry

/-- What a device reports about itself. Values that are missing or blank are left out. -/
structure Selection where
  /-- The profile version it uses. -/
  profileVersion : Option String := none
  /-- Its model name. -/
  model : Option String := none
  /-- The partner that runs it. -/
  partnerId : Option String := none
  /-- The account it belongs to. -/
  accountId : Option String := none
  /-- Its firmware version. -/
  firmwareVersion : Option String := none
  /-- The address of its outer interface, when it is not the derived one. -/
  wanMac : Option String := none
  deriving DecidableEq, Repr

/-- Whether a text occurs in another. -/
def mentions (part whole : String) : Bool :=
  (Bytes.ofText part).occursIn (Bytes.ofText whole)

/-- The environment that a firmware version names. -/
def environmentOf? (firmware : String) : Option String :=
  if mentions "PROD" firmware then some "PROD"
  else if mentions "DEV" firmware then some "DEV"
  else none

/-- A field of the query, unless its value is missing or blank. -/
def queryField (name : String) (value : Option String) : List (String × String) :=
  ((Text.trimmed? value).map fun v => (name, v)).toList

/-- The address fields: the reported outer address, or else the device's own address and the
set-top address two above it. -/
def addressFields (mac : Mac) (wanMac : Option String) : List (String × String) :=
  match Text.trimmed? wanMac with
  | some wan => [("estbMacAddress", wan)]
  | none => [("estbMacAddress", (mac.offset 2).text), ("ecmMacAddress", mac.text)]

namespace Selection

/-- The fields of the primary query, in order. -/
def fields (s : Selection) (mac : Mac) (partner : Option String) : List (String × String) :=
  queryField "env" (s.firmwareVersion.bind environmentOf?) ++
    queryField "partnerId" partner ++
    queryField "version" s.profileVersion ++
    queryField "model" s.model ++
    queryField "accountId" s.accountId ++
    queryField "firmwareVersion" s.firmwareVersion ++
    addressFields mac s.wanMac

/-- The primary query. The extra params are appended as they are, without the `&` they may start
with. -/
def toQuery (s : Selection) (mac : Mac) (partner extra : Option String) : String :=
  let query := Form.write (s.fields mac partner)
  let extra := String.ofList ((extra.getD "").toList.dropWhile (· == '&'))
  if extra = "" then query else if query = "" then extra else query ++ "&" ++ extra

end Selection

/-- The reported partner, trimmed, when it is one of those listed. Case is ignored. -/
def knownPartner? (partners : List String) (reported : Option String) : Option String :=
  (Text.trimmed? reported).filter fun p => partners.any (Text.sameIgnoringCase p)

end GatewayConfig.Telemetry
