import GatewayConfig.Bytes

/-!
# Identifiers drawn in sequence

Every fresh value of the service (link versions, part boundaries, audit ids) comes from one
supply of version-4 UUIDs. The supply is a counter, so a run is reproducible: the identifier drawn
at position `n` carries `n` in its last six bytes.
-/

namespace GatewayConfig

/-- The UUID at a position of the supply, as its sixteen bytes. -/
def uuidAt (n : Nat) : Bytes :=
  [0, 0, 0, 0, 0, 0, 0x40, 0, 0x80, 0] ++ Bytes.bigEndian 6 n

/-- Where the supply stands: the position of the next draw. -/
structure UuidSupply where
  /-- How many identifiers have been drawn. -/
  next : Nat := 0
  deriving DecidableEq, Repr

namespace UuidSupply

/-- Draw one identifier. -/
def draw (s : UuidSupply) : Bytes × UuidSupply := (uuidAt s.next, ⟨s.next + 1⟩)

/-- Draw one identifier as thirty-two hexadecimal digits. -/
def drawHex (s : UuidSupply) : String × UuidSupply := (Bytes.hex (uuidAt s.next), ⟨s.next + 1⟩)

end UuidSupply

end GatewayConfig
