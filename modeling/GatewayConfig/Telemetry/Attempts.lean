import GatewayConfig.Bytes
import GatewayConfig.Telemetry.Retry

/-!
# Attempts of a call

A call is tried until an attempt is answered with a status that another attempt would not change,
or until the policy's attempts are used up, and then the last outcome stands, whatever it is.
Between two attempts the policy's wait passes. `RetryPolicy.run` describes this over any sequence
of outcomes, of which it looks at no more than it needs.
-/

namespace GatewayConfig.Telemetry

/-- How one attempt ends. -/
inductive Outcome where
  /-- No answer arrived. -/
  | transportError
  /-- An answer arrived. Its body may break off before its end. -/
  | response (status : Nat) (body : Bytes) (complete : Bool)
  deriving DecidableEq, Repr

/-- Whether another attempt would be pointless. Only a missing answer and a status of the range
500 to 599 are worth another one. -/
def Outcome.isFinal : Outcome → Bool
  | transportError => false
  | response status _ _ => status < 500 || 599 < status

/-- What the attempts of a call came to. -/
structure Attempts where
  /-- The outcome of the last attempt. -/
  outcome : Outcome
  /-- How many attempts were made. -/
  calls : Nat
  /-- The waits between them, in order. -/
  waits : List Duration
  deriving DecidableEq

namespace RetryPolicy

/-- The attempts from number `n` on, when so many retries are left. -/
def runFrom (p : RetryPolicy) (outcomes : Nat → Outcome) : Nat → Nat → Attempts
  | 0, n => ⟨outcomes n, n + 1, []⟩
  | left + 1, n =>
    if (outcomes n).isFinal then ⟨outcomes n, n + 1, []⟩
    else
      let rest := runFrom p outcomes left (n + 1)
      { rest with waits := p.delay n :: rest.waits }

/-- The attempts of a call whose attempts would end as the outcomes say. -/
def run (p : RetryPolicy) (outcomes : Nat → Outcome) : Attempts := p.runFrom outcomes p.maxRetries 0

end RetryPolicy

/-- When each attempt starts and when the last one ends. The costs are those of the attempts from
number `n` on, and all times are in nanoseconds. -/
def timeline (cost : Nat → Nat) : List Duration → Nat → Nat → List Nat × Nat
  | [], n, time => ([time], time + cost n)
  | wait :: waits, n, time =>
    let (starts, finish) := timeline cost waits (n + 1) (time + cost n + wait.toNanos)
    (time :: starts, finish)

/-- Every attempt has a start. -/
theorem length_timeline (cost : Nat → Nat) (waits : List Duration) (n time : Nat) :
    (timeline cost waits n time).1.length = waits.length + 1 := by
  induction waits generalizing n time with
  | nil => rfl
  | cons wait waits ih => simp [timeline, ih]

end GatewayConfig.Telemetry
