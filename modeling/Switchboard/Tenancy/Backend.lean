import Switchboard.Text.Quoted
import Switchboard.Url.Reader
/-
  Backends: the tenants that may use the switchboard. A backend claims the URLs that start with its
  own, and has a secret by which its requests are verified.
-/
namespace Switchboard

open Switchboard.Text

/-- The text with a slash at its end. -/
def withSlash (s : String) : String :=
  if s.toList.getLast? = some '/' then s else s.push '/'

/-- The text of a URL with a slash at its end, so that no URL starts with it in the middle of a path
segment. -/
def Url.normalized (u : Url) : String := withSlash u.text

/-- The key of the server that a URL names: its host, and its port if it is not the one that the
scheme implies. -/
def Url.hostKey (u : Url) : String :=
  match u.host? with
  | none => ""
  | some h =>
    String.ofList (lowerAscii h.text.toList)
      ++ match u.port? with
        | none => ""
        | some p => ":" ++ String.ofList (Decimal.digitsOf p)

namespace Tenancy

/-- A secret, as bytes. -/
structure Secret where
  bytes : List UInt8
  deriving DecidableEq

/-- The secret that a text encodes. -/
def Secret.ofText (s : String) : Secret := ⟨s.toList.flatMap String.utf8EncodeChar⟩

/-- A backend. -/
structure Backend where
  id : String
  /-- What the URLs of this backend start with; ends with a slash, or is empty for all URLs. -/
  url : String
  secret : Secret
  /-- Whether it stands for hosts that are allowed without a backend of their own. -/
  compat : Bool
  deriving DecidableEq

namespace Backend

/-- The backend at a URL. -/
def ofUrl (id : String) (url : Url) (secret : Secret) : Backend :=
  ⟨id, url.normalized, secret, false⟩

/-- The backend that stands for all hosts that are allowed without one of their own. -/
def shared (secret : Secret) : Backend := ⟨"compat", "", secret, true⟩

/-- Whether the normalized text of a URL belongs to a backend. -/
def claims (b : Backend) (normalized : String) : Bool :=
  b.url.isEmpty || begins b.url.toList normalized.toList

/-- A backend for a human reader, who does not see its secret. -/
def describe (b : Backend) : String :=
  "Backend \x7b id: " ++ quoted b.id ++ ", url: " ++ quoted b.url ++ ", secret: "
    ++ quoted "[REDACTED]" ++ ", compat: " ++ (if b.compat then "true" else "false") ++ " \x7d"

end Backend

/-- A backend in its place. The stamp tells apart backends that are equal but were put there at
different times. -/
structure Entry where
  stamp : Nat
  backend : Backend
  deriving DecidableEq

end Tenancy

end Switchboard
