import GatewayConfig.Bytes.Lenient
import GatewayConfig.Store.Backend
import GatewayConfig.Telemetry.Attempts
import GatewayConfig.Telemetry.Settings
import GatewayConfig.Text.Header

/-!
# Catalog sources

A source answers requests one after the other from a script, and a call to it is a run of
attempts. A world holds the two sources beside the store, what the sources have received, and a
clock that moves with every wait. A request is received only by the source that its URL points to,
and one whose headers cannot be sent is received by nobody.
-/

namespace GatewayConfig.Telemetry

/-- What a source does with a request. -/
inductive Reply where
  /-- It answers, and may break off inside the body. -/
  | answer (status : Nat) (body : Bytes) (complete : Bool)
  /-- It closes the connection. -/
  | closed
  /-- It never answers. -/
  | silent
  deriving DecidableEq, Repr

/-- How an attempt ends that is met with a reply. -/
def Reply.outcome : Reply → Outcome
  | answer status body complete => .response status body complete
  | closed => .transportError
  | silent => .transportError

/-- A source: how it replies to each request, and how far it has come. -/
structure Source where
  /-- Whether requests reach it at all. -/
  reachable : Bool := true
  /-- The reply to each request. -/
  script : Nat → Reply
  /-- How many requests it has received. -/
  served : Nat := 0

/-- A request that a source has received. -/
structure Received where
  /-- The source. -/
  source : SourceName
  /-- Path and query of the request. -/
  target : String
  /-- Its headers. -/
  headers : List (String × String)
  /-- When it was sent, in nanoseconds. -/
  time : Nat
  deriving DecidableEq, Repr

/-- All that a request to the service can change. -/
structure World where
  /-- The store and the supply of identifiers. -/
  store : Store.State := {}
  /-- The primary source. -/
  primary : Source
  /-- The secondary source. -/
  secondary : Source
  /-- What the sources have received, in order. -/
  received : List Received := []
  /-- The time that has passed, in nanoseconds. -/
  clock : Nat := 0

/-- An operation on the world. What it changed before an error stays changed. -/
abbrev Action (ε α : Type) := ExceptT ε (StateM World) α

/-- An operation on the store alone. -/
def onStore (act : Store.Action ε α) : Action ε α := fun w =>
  let (result, store) := act w.store
  (result, { w with store })

namespace World

/-- A source of the world. -/
def source (w : World) : SourceName → Source
  | .primary => w.primary
  | .secondary => w.secondary

/-- The world after a source has received a request. -/
def receive (w : World) (r : Received) : World :=
  let w := { w with received := w.received ++ [r] }
  match r.source with
  | .primary => { w with primary.served := w.primary.served + 1 }
  | .secondary => { w with secondary.served := w.secondary.served + 1 }

/-- Receiving a request leaves the store alone. -/
@[simp] theorem store_receive (w : World) (r : Received) : (w.receive r).store = w.store := by
  unfold receive
  split <;> rfl

/-- A request is received behind those before it. -/
@[simp] theorem received_receive (w : World) (r : Received) :
    (w.receive r).received = w.received ++ [r] := by
  unfold receive
  split <;> rfl

/-- Requests that sources receive leave the store alone. -/
@[simp] theorem store_foldl_receive (requests : List Received) (w : World) :
    (requests.foldl receive w).store = w.store := by
  induction requests generalizing w with
  | nil => rfl
  | cons r rest ih => simp [ih]

/-- What sources receive is kept in order. -/
@[simp] theorem received_foldl_receive (requests : List Received) (w : World) :
    (requests.foldl receive w).received = w.received ++ requests := by
  induction requests generalizing w with
  | nil => simp
  | cons r rest ih => simp [ih]

end World

/-- Why a source gave no catalog. -/
inductive SourceError where
  /-- No answer arrived, or not the whole of it. -/
  | transport (endpoint : String)
  /-- The source answered with a status that is no success. -/
  | remote (endpoint : String) (status : Nat) (body : String)
  /-- The path does not name a URL beside the host. -/
  | invalidUrl (endpoint : String) (fault : Url.Fault)
  deriving DecidableEq, Repr

namespace SourceError

/-- The text of a failed call. -/
def message : SourceError → String
  | transport endpoint => "HTTP error calling " ++ endpoint
  | remote endpoint status body => endpoint ++ " returned " ++ toString status ++ ": " ++ body
  | invalidUrl endpoint fault => "invalid URL for " ++ endpoint ++ ": " ++ fault.message

/-- The status that the source answered with. -/
def status? : SourceError → Option Nat
  | remote _ status _ => some status
  | _ => none

/-- Whether the source answered that it knows nothing. -/
def isNotFound (e : SourceError) : Bool := e.status? == some 404

/-- A source knows nothing exactly when it answered with status 404, whatever the body of that
answer. -/
theorem isNotFound_eq_true_iff {e : SourceError} :
    e.isNotFound = true ↔ ∃ endpoint body, e = .remote endpoint 404 body := by
  cases e <;> simp [isNotFound, status?]

end SourceError

/-- The body that the last outcome of a call stands for. -/
def readBody (endpoint : String) : Outcome → Except SourceError Bytes
  | .transportError => .error (.transport endpoint)
  | .response status body complete =>
    if 200 ≤ status ∧ status ≤ 299 then
      if complete then .ok body else .error (.transport endpoint)
    else
      .error (.remote endpoint status (if complete then Bytes.lenientText body else ""))

/-- Whether a URL points to the service at a host. -/
def pointsTo (url host : Url) : Bool :=
  (url.scheme == "http" || url.scheme == "https") && url.scheme == host.scheme &&
    url.authority.map (fun a => (a.host, a.portNumber)) ==
      host.authority.map fun a => (a.host, a.portNumber)

/-- How long an attempt takes: a moment, or the whole of its time if no answer comes. -/
def attemptCost (s : Settings) (reply : Reply) : Nat :=
  1 + if reply = .silent then s.timeoutSeconds * 1000000000 else 0

/-- Ask a source for a URL until the policy gives up. -/
def call (s : Settings) (name : SourceName) (endpoint : String) (url : Url)
    (headers : List (String × String)) : Action SourceError Bytes := fun w =>
  let source := w.source name
  let heard := source.reachable && pointsTo url (s.host name) &&
    headers.all fun h => Text.isHeaderValue h.2
  let reply n := if heard then source.script (source.served + n) else .closed
  let run := s.retry.run fun n => (reply n).outcome
  let (starts, finish) := timeline (fun n => attemptCost s (reply n)) run.waits 0 w.clock
  let requests := if heard then starts.map (⟨name, url.target, headers, ·⟩) else []
  (readBody endpoint run.outcome, { requests.foldl World.receive w with clock := finish })

end GatewayConfig.Telemetry
