import Switchboard.Json.Fault
import Switchboard.Url.Fault
/-
  The rules that a request can break. Each violation has a code for programs and a text for people.
-/
namespace Switchboard.Inbound

/-- The rule that a request breaks. -/
inductive Violation
  | typeMissing
  | payloadMissing (kind : String)
  | unsupportedVersion (version : String)
  | paramsMissing
  | urlMissing
  | invalidUrl (fault : Url.Fault)
  | invalidAuthParams (refusal : Json.Refusal)
  | unsupportedAuthType
  | messageEmpty
  | sessionIdMissing
  | userIdMissing
  | unsupportedRecipientType (kind : String)
  deriving DecidableEq

/-- The code of a violation. -/
def Violation.code : Violation → String
  | .typeMissing => "type_missing"
  | .payloadMissing _ => "payload_missing"
  | .unsupportedVersion _ => "unsupported_version"
  | .paramsMissing => "params_missing"
  | .urlMissing => "url_missing"
  | .invalidUrl _ | .invalidAuthParams _ => "invalid_request"
  | .unsupportedAuthType => "unsupported_auth_type"
  | .messageEmpty => "message_empty"
  | .sessionIdMissing => "session_id_missing"
  | .userIdMissing => "user_id_missing"
  | .unsupportedRecipientType _ => "unsupported_recipient_type"

/-- The text of a violation. -/
def Violation.message : Violation → String
  | .typeMissing => "type missing"
  | .payloadMissing kind => kind ++ " missing"
  | .unsupportedVersion version => "unsupported hello version: " ++ version
  | .paramsMissing => "params missing"
  | .urlMissing => "url missing"
  | .invalidUrl fault => fault.message
  | .invalidAuthParams refusal => refusal.message
  | .unsupportedAuthType => "unsupported auth type"
  | .messageEmpty => "message empty"
  | .sessionIdMissing => "session id missing"
  | .userIdMissing => "user id missing"
  | .unsupportedRecipientType kind => "unsupported recipient type " ++ kind

end Switchboard.Inbound
