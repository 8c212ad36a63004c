import Switchboard.Inbound.Frame
import Switchboard.Outbound.Frame
/-
  Replies to requests that went wrong. Each carries the id of the request, as far as it is known.
-/
namespace Switchboard

/-- The reply to a text that is no request. -/
def Inbound.Rejection.reply : Inbound.Rejection → Outbound.Message
  | .malformed _ => .problem none .invalidFormat
  | .invalid id v => .problem id (.ofViolation v)

/-- The reply that tells a problem. -/
def Inbound.Request.reply (r : Inbound.Request) (p : Outbound.Problem) :
    Outbound.Message := .problem r.id p

/-- The reply that something failed inside. -/
def Inbound.Request.internalReply (r : Inbound.Request) (message : String) :
    Outbound.Message :=
  r.reply (.internal message)

end Switchboard
