import Discovery.Transport.Basic
import Discovery.Wire.Limits

namespace Discovery

/-!
# Refusals

Only what a caller has to decide about is reported: that the agent has been
disposed, that an edit was overtaken, that the others would refuse what is to
be announced, or that the transport did not start.
-/

/-- Why an agent refuses a request. -/
inductive AgentError where
  | disposed
  | staleEdit (baseline current : Nat)
  | unencodable (cause : Wire.WireError)
  | noRuntime
  | transport (cause : TransportError)
  deriving DecidableEq, Repr

namespace AgentError

/-- What is said about a refused request. -/
def message : AgentError → String
  | .disposed => "discovery agent has been disposed"
  | .staleEdit baseline current =>
      "stale edit: baseline serial " ++ toString baseline ++
        ", resource is at " ++ toString current
  | .unencodable cause => "cannot be sent on the wire: " ++ cause.message
  | .noRuntime => "no tokio runtime available"
  | .transport cause => "transport failed: " ++ cause.message

/-- Whether an edit was refused because another one overtook it. -/
def isStaleEdit : AgentError → Bool
  | .staleEdit .. => true
  | _ => false

end AgentError

end Discovery
