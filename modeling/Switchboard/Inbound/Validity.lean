import Switchboard.Inbound.Payload
import Switchboard.Inbound.Violation
import Switchboard.Url.Reader
/-
  When a payload is valid. Where several rules are broken, the first in a fixed order is reported:
  for a hello version, parameters, kind of credentials, URL or internal parameters; for a message
  its data, then its recipient.
-/
namespace Switchboard.Inbound

open Switchboard.Json

/-- The version that a hello has to name. -/
def helloVersion : String := "1.0"

/-- The kinds of credentials. -/
inductive AuthKind
  | client
  | internal
  deriving DecidableEq, Repr

/-- The kind of credentials with a name. -/
def AuthKind.ofName (name : String) : Except Violation AuthKind :=
  if name = "" ∨ name = "client" then .ok .client
  else if name = "internal" then .ok .internal
  else .error .unsupportedAuthType

/-- The parameters of internal credentials. -/
structure InternalParams where
  random : String
  token : String
  deriving DecidableEq, Repr

def InternalParams.record : Record InternalParams where
  name := "InternalAuthParams"
  types := [String, String]
  fields := .cons (.text "random") (.cons (.text "token") .nil)
  make := fun (random, token, ()) => ⟨random, token⟩
  parts p := (p.random, p.token, ())

/-- Credentials that are well formed and wait to be verified. -/
inductive Credentials
  | client (url : Url) (params : Raw)
  | internal (params : InternalParams)
  deriving DecidableEq

/-- The credentials of a client. -/
def Auth.client (a : Auth) (params : Raw) : Except Violation Credentials :=
  if a.url = "" then .error .urlMissing
  else
    match Url.ofText a.url with
    | .ok url => .ok (.client url params)
    | .error fault => .error (.invalidUrl fault)

/-- Internal credentials. -/
def Auth.internal (params : Raw) : Except Violation Credentials :=
  match InternalParams.record.codec.ofText params.text with
  | .ok p => .ok (.internal p)
  | .error refusal => .error (.invalidAuthParams refusal)

/-- A blob that is there and not empty. -/
def present? (r : Option Raw) : Option Raw := r.filter (·.text ≠ "")

/-- The credentials of a hello; a hello that resumes a session has none. -/
def Hello.credentials (h : Hello) : Except Violation (Option Credentials) :=
  if h.version ≠ helloVersion then .error (.unsupportedVersion h.version)
  else if h.resumeId ≠ "" then .ok none
  else
    match present? h.auth.params with
    | none => .error .paramsMissing
    | some params => do
      match ← AuthKind.ofName h.auth.kind with
      | .client => .ok (some (← h.auth.client params))
      | .internal => .ok (some (← Auth.internal params))

/-- Checks the recipient of a message. -/
def Recipient.check (r : Recipient) : Except Violation Unit :=
  if r.kind = "room" then .ok ()
  else if r.kind = "session" then
    if r.sessionId = "" then .error .sessionIdMissing else .ok ()
  else if r.kind = "user" then
    if r.userId = "" then .error .userIdMissing else .ok ()
  else .error (.unsupportedRecipientType r.kind)

/-- Checks a message. -/
def Message.check (m : Message) : Except Violation Unit :=
  match present? m.data with
  | none => .error .messageEmpty
  | some _ => m.recipient.check

/-- Checks a payload. -/
def Payload.check : Payload → Except Violation Unit
  | .hello h => do let _ ← h.credentials
  | .message m | .control m => m.check
  | .bye _ | .room _ | .other _ => .ok ()

end Switchboard.Inbound
