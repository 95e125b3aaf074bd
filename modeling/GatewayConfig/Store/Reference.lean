import GatewayConfig.Store.Backend
import GatewayConfig.Version

/-!
# Reference documents

A reference document is a byte string under an id of the client's choice, shared by all devices.
It is stored as it is, whatever it holds, and its version is the token of its bytes. Removing it
leaves the links that name it dangling.
-/

namespace GatewayConfig.Store

/-- A reference document as it is read back. -/
structure Reference where
  /-- The id it is stored under. -/
  id : String
  /-- The token of its bytes. -/
  version : Version
  /-- Its bytes. -/
  bytes : Bytes
  deriving DecidableEq, Repr

/-- The key of a reference document. -/
def referenceKey (id : String) : String := "ref/" ++ id

/-- Create or replace a reference document. -/
def putReference (id : String) (bytes : Bytes) : Action Error Version := do
  put (referenceKey id) bytes
  return Version.ofBytes bytes

/-- Read a reference document. -/
def getReference (id : String) : Action Error (Option Reference) := do
  let value ← get (referenceKey id)
  return value.map fun bytes => ⟨id, Version.ofBytes bytes, bytes⟩

/-- Remove a reference document. -/
def deleteReference (id : String) : Action Error Unit := delete (referenceKey id)

end GatewayConfig.Store
