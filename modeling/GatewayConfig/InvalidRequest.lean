import GatewayConfig.Bytes
import GatewayConfig.Text.Quoted

/-!
# Requests of the wrong shape

The reasons for which a request is refused before any stored value is looked at, and the text
that names each of them. A part of the request that is repeated in the text is quoted, so that
the message stays on one line.
-/

namespace GatewayConfig

/-- Why a request is refused. -/
inductive InvalidRequest where
  /-- A device address is not twelve hexadecimal digits. -/
  | mac (raw : String)
  /-- A group fetch names no group. -/
  | missingGroup
  /-- The first member of a group is not the root. -/
  | missingRoot (first : String)
  /-- A subdocument id is not registered. -/
  | unknownSubdoc (id : String)
  /-- The client holds another number of version tokens than the group has ids. -/
  | versionCount (ids versions : Nat)
  /-- A poke names a document that cannot be poked. -/
  | pokeDoc (name : String)
  /-- A poke names a delivery route that does not exist. -/
  | pokeRoute (name : String)
  /-- A link body is too short to hold its marker. -/
  | linkBodyLength (length : Nat)
  /-- A link body starts with no known marker. -/
  | linkBodyMarker (marker : Bytes)
  /-- A reference id is not UTF-8. -/
  | referenceIdEncoding
  /-- A reference id is empty. -/
  | referenceIdEmpty
  /-- The query params of a device are not UTF-8. -/
  | paramsEncoding
  deriving DecidableEq, Repr

namespace InvalidRequest

/-- The text of a refusal. -/
def message : InvalidRequest → String
  | mac raw => "invalid mac address: " ++ Text.quoted raw
  | missingGroup => "missing group_id query parameter"
  | missingRoot first => "group must start with \"root\", got " ++ Text.quoted first
  | unknownSubdoc id => "unknown subdocument id: " ++ Text.quoted id
  | versionCount ids versions =>
    "version count mismatch: " ++ toString ids ++ " ids but " ++ toString versions ++ " versions"
  | pokeDoc name => "invalid poke doc: " ++ Text.quoted name
  | pokeRoute name => "invalid poke route: " ++ Text.quoted name
  | linkBodyLength length =>
    "invalid link body: body is " ++ toString length ++ " bytes, marker needs 4"
  | linkBodyMarker marker =>
    "invalid link body: unknown marker [" ++
      ", ".intercalate (marker.map fun b => Bytes.hex [b]) ++ "]"
  | referenceIdEncoding => "invalid reference id: not UTF-8"
  | referenceIdEmpty => "invalid reference id: empty"
  | paramsEncoding => "invalid query params: not UTF-8"

end InvalidRequest

end GatewayConfig
