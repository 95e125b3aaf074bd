import GatewayConfig.Text.Blank
import GatewayConfig.Uuid

/-!
# Request context

The values that accompany one request from the client to the catalog sources: an audit id, which
every request has, and the two trace headers, which are handed on untouched.
-/

namespace GatewayConfig

/-- What is handed on with a request. -/
structure RequestContext where
  /-- The audit id. -/
  auditId : String
  /-- The trace parent, when the client sent one. -/
  traceparent : Option String
  /-- The trace state, when the client sent one. -/
  tracestate : Option String
  deriving DecidableEq, Repr

namespace RequestContext

/-- Build a context. An audit id is trimmed, and one that is missing or blank is drawn. -/
def ofHeaders (auditId traceparent tracestate : Option String) (s : UuidSupply) :
    RequestContext × UuidSupply :=
  match Text.trimmed? auditId with
  | some id => (⟨id, traceparent, tracestate⟩, s)
  | none => (⟨s.drawHex.1, traceparent, tracestate⟩, s.drawHex.2)

/-- The headers of a call to a source, in order. -/
def outboundHeaders (c : RequestContext) : List (String × String) :=
  ("X-Auditid", c.auditId) ::
    ((c.traceparent.map fun v => ("traceparent", v)).toList ++
      (c.tracestate.map fun v => ("tracestate", v)).toList)

end RequestContext

end GatewayConfig
