import GatewayConfig.Group
import GatewayConfig.Multipart.Encode
import GatewayConfig.Store.Link

/-!
# Fetching the configuration of a device

A group fetch collects the members that are present and answers with all of them, or says that
the client's copy is up to date. The second answer needs at least one member, the client's root
token equal to the root version of what is present, and each member's token equal to its version.
An error with one member is an error of the fetch: there are no partial answers.
-/

namespace GatewayConfig.Store

/-- Why a fetch fails. -/
inductive FetchError where
  /-- A member could not be read. -/
  | store (error : Error)
  /-- The members could not be encoded. -/
  | codec (error : Multipart.Error)
  deriving DecidableEq, Repr

/-- The text of a failed fetch. -/
def FetchError.message : FetchError → String
  | store error => error.message
  | codec error => error.message

/-- The answer to a fetch. -/
inductive Fetched where
  /-- The client holds every member that is present. -/
  | notModified (rootVersion : Version)
  /-- The members that are present, encoded. -/
  | modified (rootVersion : Version) (message : Multipart.Message) (count : Nat)
  deriving DecidableEq, Repr

/-- Encode parts under a boundary drawn from the supply. -/
def encodeParts (parts : List Multipart.Part) : Action Multipart.Error Multipart.Message := fun s =>
  let (result, uuids) := Multipart.encode parts s.uuids
  (result, { s with uuids })

/-- The members that are present, in request order, each with the client's token for it. -/
def presentMembers (mac : Mac) :
    List (String × Version) → Action Error (List (Resolved × Version))
  | [] => return []
  | (id, held) :: rest => do
    match ← resolve mac id with
    | some doc => return (doc, held) :: (← presentMembers mac rest)
    | none => presentMembers mac rest

/-- Whether a client with these tokens holds what is present. -/
def isCurrent (held root : Version) (present : List (Resolved × Version)) : Bool :=
  !present.isEmpty && held == root && present.all fun (doc, held) => doc.version == held

/-- Fetch a group of a device's subdocuments. -/
def fetch (mac : Mac) (request : GroupRequest) : Action FetchError Fetched := do
  let present ← (presentMembers mac request.members).adapt .store
  let root := Version.root (present.map fun (doc, _) => (doc.id, doc.version))
  if isCurrent request.rootVersion root present then return .notModified root
  let parts := present.map fun (doc, _) =>
    { name := doc.id, version := doc.version, bytes := doc.bytes : Multipart.Part }
  let message ← (encodeParts parts).adapt .codec
  return .modified root message parts.length

end GatewayConfig.Store
