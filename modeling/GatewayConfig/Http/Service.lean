import GatewayConfig.Http.Command
import GatewayConfig.Settings

/-!
# The service

A request is routed, checked and carried out. Every request but a probe has an audit id, which the
answer repeats. A request that calls a source and takes longer than the time limit is cut off: its
answer is empty, and of its calls only what was received in time remains.
-/

namespace GatewayConfig.Http

open Telemetry (World)

/-- What a service answers with. -/
structure Service where
  /-- What requests are checked against. -/
  vocabulary : Vocabulary := {}
  /-- The catalog sources. -/
  telemetry : Telemetry.Settings
  /-- How long one request may take, in nanoseconds. -/
  timeLimit : Nat

/-- The service that settings describe. -/
def Service.ofSettings (s : Settings) : Service where
  vocabulary := ⟨s.registry, s.pokeTargets⟩
  telemetry := s.telemetry
  timeLimit := s.requestTimeoutSeconds * 1000000000

/-- The answer to a `HEAD` request has no body. -/
def withoutBody (r : Request) (a : Answer) : Answer :=
  if r.method = "HEAD" then { a with body := [] } else a

/-- An answer that loses its body keeps its status. -/
@[simp] theorem status_withoutBody (r : Request) (a : Answer) :
    (withoutBody r a).status = a.status := by
  unfold withoutBody
  split <;> rfl

/-- The reference that the readiness probe asks for. It need not exist. -/
def probedReference : String := "__readiness__"

/-- The answer to a probe. -/
def answerProbe (r : Request) (probe : Probe) (w : World) : Answer × World :=
  if !(Route.probe probe).methods.contains r.method then
    ((Refusal.wrongMethod (Route.probe probe).methods).answer, w)
  else
    match probe with
    | .liveness => (.text 200 "ok", w)
    | .readiness =>
      match Telemetry.onStore (Store.getReference probedReference) w with
      | (.ok _, w) => (.text 200 "ready", w)
      | (.error _, w) => (.text 503 "storage unavailable", w)

/-- Draw the context of a request. -/
def drawContext (r : Request) (w : World) : RequestContext × World :=
  let (context, uuids) := RequestContext.ofHeaders (r.header? "X-Auditid")
    (r.header? "traceparent") (r.header? "tracestate") w.store.uuids
  (context, { w with store.uuids := uuids })

namespace Service

/-- The answer to a request within its context, whatever time it takes. -/
def answerCommand (s : Service) (r : Request) (c : RequestContext) (w : World) : Answer × World :=
  match Command.ofRequest s.vocabulary r (Route.ofPath? r.path) with
  | .error refusal => (refusal.answer, w)
  | .ok command =>
    match command.run s.telemetry c w with
    | (.ok answer, w) => (answer, w)
    | (.error failure, w) => (failure.answer, w)

/-- The world of a request that is cut off: the sources have received what was sent in time, the
store has been read, and nothing was drawn for an answer. -/
def cutOff (s : Service) (before after : World) : World :=
  let kept := after.received.filter fun r => r.time < s.timeLimit
  kept.foldl World.receive
    { before with
      store := { after.store with uuids := before.store.uuids }
      clock := s.timeLimit }

/-- A request that is cut off leaves what is stored as the request found it or changed it. -/
theorem store_cutOff (s : Service) (before after : World) :
    (s.cutOff before after).store = { after.store with uuids := before.store.uuids } := by
  simp [cutOff]

/-- The answer to a request of the API. -/
def answerApi (s : Service) (r : Request) (w : World) : Answer × World :=
  let (context, before) := drawContext r w
  let (answer, after) := s.answerCommand r context before
  if s.timeLimit < after.clock then ({ status := 408 }, s.cutOff before after)
  else ({ answer with auditId := some context.auditId }, after)

/-- The answer to a request. Time and calls are counted from its start. -/
def handle (s : Service) (r : Request) (w : World) : Answer × World :=
  let w := { w with received := [], clock := 0 }
  let (answer, w) := match Route.ofPath? r.path with
    | some (.probe probe) => answerProbe r probe w
    | _ => s.answerApi r w
  (withoutBody r answer, w)

end Service

end GatewayConfig.Http
