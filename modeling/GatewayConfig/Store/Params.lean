import GatewayConfig.Mac
import GatewayConfig.Store.Backend

/-!
# Query params of a device

Each device may have one text of the form `k=v&k=v`, which selects supplementary profiles for it.
-/

namespace GatewayConfig.Store

/-- The key of a device's query params. -/
def paramsKey (mac : Mac) : String := "root/" ++ mac.text

/-- Replace the query params of a device. -/
def setParams (mac : Mac) (params : String) : Action Error Unit :=
  put (paramsKey mac) (Bytes.ofText params)

/-- Read the query params of a device. -/
def getParams (mac : Mac) : Action Error (Option String) := do
  match ← get (paramsKey mac) with
  | none => return none
  | some raw =>
    match Bytes.text? raw with
    | none => throw (.corrupt (paramsKey mac) .paramsEncoding)
    | some params => return some params

end GatewayConfig.Store
