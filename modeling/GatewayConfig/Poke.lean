import GatewayConfig.InvalidRequest
import GatewayConfig.Registry
import GatewayConfig.Text.Split

/-!
# Pokes

A poke tells a device to fetch again: some named documents, the documents of one delivery route,
or everything. Which names a service accepts is part of its settings.
-/

namespace GatewayConfig

/-- The names that a poke may select. -/
structure PokeTargets where
  /-- Documents. -/
  docs : List String := ["primary", "telemetry"]
  /-- Delivery routes. -/
  routes : List String := ["mqtt"]
  deriving DecidableEq, Repr

/-- What a poke asks a device to fetch. -/
inductive Poke where
  /-- The named documents, in request order. -/
  | docs (names : List String)
  /-- What one delivery route carries. -/
  | route (name : String)
  /-- Everything. -/
  | everything
  deriving DecidableEq, Repr

namespace Poke

/-- Read a selection. Documents win over a route, and an empty value counts as absent. -/
def parse (doc route : Option String) (targets : PokeTargets) : Except InvalidRequest Poke :=
  match doc.filter (· ≠ "") with
  | some doc =>
    let names := Text.split ',' doc
    match names.find? fun name => !targets.docs.contains name with
    | some name => .error (.pokeDoc name)
    | none => .ok (.docs names)
  | none =>
    match route.filter (· ≠ "") with
    | some route =>
      if targets.routes.contains route then .ok (.route route) else .error (.pokeRoute route)
    | none => .ok .everything

/-- The label of the selection: the documents joined by commas, the route, or `root`. -/
def action : Poke → String
  | docs names => Text.join ',' names
  | route name => name
  | everything => rootId

end Poke

end GatewayConfig
