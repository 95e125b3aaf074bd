import GatewayConfig.Json.Reader
import GatewayConfig.Json.Writer

/-!
# Catalogs of telemetry profiles

A catalog is a JSON object whose member `profiles` is an array. Extra profiles come as a bare
array, and merging appends them to the catalog's own. When there are none, the catalog is handed
on byte for byte, whatever it holds.
-/

namespace GatewayConfig.Telemetry

/-- Why extra profiles cannot be merged into a catalog. -/
inductive MergeError where
  /-- The extra profiles are not a JSON array. -/
  | extraSyntax
  /-- The catalog is not JSON. -/
  | baseSyntax
  /-- The catalog is JSON of another kind than an object. -/
  | baseKind
  /-- The catalog's profiles are not an array. -/
  | profilesKind
  deriving DecidableEq, Repr

/-- The text of a failed merge. -/
def MergeError.message (e : MergeError) : String :=
  "cannot merge telemetry profiles: " ++
    match e with
    | extraSyntax => "extra profiles: "
    | baseSyntax => "base catalog: "
    | baseKind => "base catalog is not a JSON object"
    | profilesKind => "base \"profiles\" is not an array"

/-- The catalog without profiles. -/
def emptyCatalog : Bytes := Bytes.ofText "\x7b\"profiles\":[]\x7d"

/-- Whether a byte is ASCII white space: a space, tab, line feed, form feed or carriage return. -/
def isAsciiSpace (b : UInt8) : Bool := b == 32 || b == 9 || b == 10 || b == 12 || b == 13

/-- The extra profiles of a byte string. A blank one has none. -/
def extraProfiles (extra : Bytes) : Except MergeError (List Json.Value) :=
  if extra.all isAsciiSpace then .ok []
  else
    match Json.readItems? extra with
    | some items => .ok items
    | none => .error .extraSyntax

/-- The members of a catalog with more profiles. -/
def appendMembers (members : Json.Members) (more : List Json.Value) :
    Except MergeError Json.Members :=
  match members.get? "profiles" with
  | none => .ok (members.insert "profiles" (.array more))
  | some (.array items) => .ok (members.insert "profiles" (.array (items ++ more)))
  | some _ => .error .profilesKind

/-- Append extra profiles to a catalog. -/
def appendProfiles (base extra : Bytes) : Except MergeError Bytes :=
  match extraProfiles extra with
  | .error e => .error e
  | .ok [] => .ok base
  | .ok more =>
    match Json.read? base with
    | none => .error .baseSyntax
    | some (.object members) =>
      (appendMembers members more).map fun members => Json.write (.object members)
    | some _ => .error .baseKind

end GatewayConfig.Telemetry
