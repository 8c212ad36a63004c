import Switchboard.Url.Host
/-
  URLs, as values in normal form: what makes up a URL, its text, and the parts that identify the
  server it names.
-/
namespace Switchboard

open Switchboard.Decimal (digitsOf)
open Switchboard.Url (Host)

/-- The user, host and port of a URL. The port is given only where it differs from the one that the
scheme implies. -/
structure Authority where
  /-- The user name, and the password after a colon, as they stand before the `@`; empty if there
  are none. -/
  user : String
  host : Host
  port : Option Nat
  deriving DecidableEq, Repr

/-- A URL. All parts are encoded as they are written. -/
structure Url where
  scheme : String
  authority : Option Authority
  path : String
  query : Option String
  fragment : Option String
  deriving DecidableEq, Repr

/-- The text of an authority. -/
def Authority.text (a : Authority) : String :=
  (if a.user.isEmpty then "" else a.user ++ "@") ++ a.host.text
    ++ match a.port with
      | none => ""
      | some p => ":" ++ String.ofList (digitsOf p)

namespace Url

/-- The text before the path. -/
def origin (u : Url) : String :=
  u.scheme ++ ":" ++ match u.authority with
    | none => ""
    | some a => "//" ++ a.text

/-- The path as it is written: one that could be taken for an authority is kept apart by a dot. -/
def pathText (u : Url) : String :=
  if u.authority.isNone ∧ Text.begins ['/', '/'] u.path.toList then "/." ++ u.path else u.path

/-- The query and the fragment as they are written. -/
def suffix (u : Url) : String :=
  (match u.query with | none => "" | some q => "?" ++ q)
    ++ match u.fragment with | none => "" | some f => "#" ++ f

/-- The text of a URL. -/
def text (u : Url) : String := u.origin ++ u.pathText ++ u.suffix

/-- The host, if there is one that is not empty. -/
def host? (u : Url) : Option Host :=
  match u.authority with
  | none => none
  | some a => if a.host = .name "" then none else some a.host

/-- The port, if it differs from the one that the scheme implies. -/
def port? (u : Url) : Option Nat := u.authority.bind (·.port)

end Url

end Switchboard
