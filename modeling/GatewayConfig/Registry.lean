import GatewayConfig.Text.Blank

/-!
# The registry of subdocuments

A device's configuration is made of named subdocuments. The registry lists the names that a
request may use, each with a bit position that never changes once it is given out. The name
`root` stands for a device's configuration as a whole and is never registered.
-/

namespace GatewayConfig

/-- The id that heads every group and stands for the whole of it. -/
def rootId : String := "root"

/-- The registered ids, oldest first, each with its bit position. -/
structure Registry where
  /-- An id and its position, in the order of registration. -/
  entries : List (String × Nat)
  deriving DecidableEq, Repr

namespace Registry

/-- The registry without ids. -/
def empty : Registry := ⟨[]⟩

/-- The ids every service knows. -/
def builtin : Registry := ⟨[
  ("portforwarding", 1), ("lan", 2), ("wan", 3), ("macbinding", 4), ("hotspot", 5), ("bridge", 6),
  ("privatessid", 7), ("homessid", 8), ("radio", 9), ("moca", 10), ("xdns", 11),
  ("advsecurity", 12), ("mesh", 13), ("aker", 14), ("telemetry", 15), ("trafficreport", 16),
  ("interfacereport", 17), ("statusreport", 18), ("radioreport", 19), ("telcovoip", 20),
  ("wanmanager", 21), ("voiceservice", 22), ("wanfailover", 23), ("cellularconfig", 24),
  ("gwfailover", 25), ("gwrestore", 26), ("prioritizedmacs", 27), ("lldqoscontrol", 28),
  ("connectedbuilding", 29), ("xmspeedboost", 30), ("defaultrfc", 31), ("defaulttelemetry", 32),
  ("defaultdcm", 33), ("clienttosteeringprofile", 34), ("meshsteeringprofiles", 35),
  ("wifimotionsettings", 36)]⟩

/-- The bit position of an id. -/
def bit? (r : Registry) (id : String) : Option Nat := r.entries.lookup id

/-- Whether an id is registered. -/
def contains (r : Registry) (id : String) : Bool := (r.bit? id).isSome

/-- How many ids are registered. -/
def size (r : Registry) : Nat := r.entries.length

/-- The position after the highest one in use. -/
def nextBit (r : Registry) : Nat := r.entries.foldl (fun n e => max n e.2) 0 + 1

/-- Register one id under the next position, unless it is blank, `root`, or registered. -/
def register (r : Registry) (raw : String) : Registry :=
  let id := Text.trim raw
  if id = "" ∨ id = rootId ∨ r.contains id = true then r
  else ⟨r.entries ++ [(id, r.nextBit)]⟩

/-- Register ids one after the other. -/
def registerAll (r : Registry) (ids : List String) : Registry := ids.foldl register r

end Registry

end GatewayConfig
