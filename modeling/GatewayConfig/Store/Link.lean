import GatewayConfig.Mac
import GatewayConfig.Store.Record
import GatewayConfig.Store.Reference

/-!
# Subdocuments of a device

A link gives a subdocument of a device its payload. Every link gets a fresh version, so linking
the same content again is a change. A link may name a reference that does not exist: the
subdocument is then absent until the reference is created.
-/

namespace GatewayConfig.Store

/-- The key of a subdocument. -/
def linkKey (mac : Mac) (id : String) : String := "subdoc/" ++ mac.text ++ "/" ++ id

/-- A subdocument with its bytes at hand. -/
structure Resolved where
  /-- The id of the subdocument. -/
  id : String
  /-- The effective version of its bytes. -/
  version : Version
  /-- Its bytes. -/
  bytes : Bytes
  deriving DecidableEq, Repr

/-- Draw a fresh version. -/
def freshVersion : Action ε Version := fun s =>
  let (version, uuids) := Version.fresh s.uuids
  (.ok version, { s with uuids })

/-- Store a link under a fresh version, which is drawn whether or not the backend accepts it. -/
def link (mac : Mac) (id : String) (payload : Payload) : Action Error Version := do
  let version ← freshVersion
  put (linkKey mac id) (Record.encode ⟨version, payload⟩)
  return version

/-- Read a link without following it. -/
def record (mac : Mac) (id : String) : Action Error (Option Record) := do
  match ← get (linkKey mac id) with
  | none => return none
  | some raw =>
    match Record.decode raw with
    | .error damage => throw (.corrupt (linkKey mac id) damage)
    | .ok r => return some r

/-- Read the bytes of a subdocument. Those of a reference get a version that changes with the link
and with the content; a link to a missing reference is absent. -/
def resolve (mac : Mac) (id : String) : Action Error (Option Resolved) := do
  match ← record mac id with
  | none => return none
  | some ⟨version, .inline bytes⟩ => return some ⟨id, version, bytes⟩
  | some ⟨version, .reference target⟩ =>
    let doc ← getReference target
    return doc.map fun d => ⟨id, Version.combine [version, d.version], d.bytes⟩

/-- Remove a link. The reference it names stays. -/
def unlink (mac : Mac) (id : String) : Action Error Unit := delete (linkKey mac id)

end GatewayConfig.Store
