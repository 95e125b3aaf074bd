import GatewayConfig.InvalidRequest
import GatewayConfig.Registry
import GatewayConfig.Text.Split
import GatewayConfig.Version

/-!
# Group fetches

A client fetches a group of subdocuments at once. It lists the ids, `root` first, and holds one
version token for each of them. Both lists are separated by commas and must have the same length,
so that every id has its token.
-/

namespace GatewayConfig

/-- A validated group fetch. -/
structure GroupRequest where
  /-- The token that the client holds for the group as a whole. -/
  rootVersion : Version
  /-- The members after the root, in request order, each with the client's token for it. -/
  members : List (String × Version)
  deriving DecidableEq, Repr

namespace GroupRequest

/-- The ids of the group, `root` first. -/
def ids (g : GroupRequest) : List String := rootId :: g.members.map Prod.fst

/-- The tokens of a header: none when it is missing or blank, else its trimmed elements. -/
def tokens (header : Option String) : List Version :=
  match Text.trimmed? header with
  | none => []
  | some text => (Text.split ',' text).map fun t => ⟨Text.trim t⟩

/-- Read a group and the tokens held for it. The first fault found decides the refusal: no group,
no root, an unknown id, and last a difference in length. -/
def parse (group header : Option String) (registry : Registry) :
    Except InvalidRequest GroupRequest :=
  match (group.filter (· ≠ "")).map (Text.split ',') with
  | none => .error .missingGroup
  | some [] => .error .missingGroup
  | some (first :: rest) =>
    if first ≠ rootId then .error (.missingRoot first)
    else
      match rest.find? fun id => !registry.contains id with
      | some id => .error (.unknownSubdoc id)
      | none =>
        match tokens header with
        | [] => .error (.versionCount (rest.length + 1) 0)
        | rootToken :: others =>
          if others.length = rest.length then .ok ⟨rootToken, rest.zip others⟩
          else .error (.versionCount (rest.length + 1) (others.length + 1))

end GroupRequest

end GatewayConfig
