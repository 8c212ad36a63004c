import Switchboard.Journal
import Switchboard.Settings.Snapshot
import Switchboard.Tenancy.HostTable
/-
  What the settings say about backends: the list of backends with a section each, and the older list
  of allowed hosts.
-/
namespace Switchboard.Tenancy

open Switchboard.Settings (Source)
open Switchboard.Text

/-! ## Backends with sections -/

/-- The section of the settings that concern all backends. -/
def mainSection : String := "backend"

/-- Whether a text has nothing but blanks. -/
def isBlankText (s : String) : Bool := s.toList.all isBlank

/-- A text that has more than blanks. -/
def nonBlank? (s : Option String) : Option String := s.filter (!isBlankText ·)

/-- A text that is not empty. -/
def nonEmpty? (s : Option String) : Option String := s.filter (!·.isEmpty)

/-- The pieces between commas, without blanks around them. -/
def trimmedPieces (s : String) : List (List Char) := (pieces ',' s.toList).map trim

/-- Whether the settings list backends. -/
def listsBackends (s : Source) : Bool := (nonBlank? (s.text? mainSection "backends")).isSome

/-- The ids of the listed backends, each once, in order. -/
def backendIds (s : Source) : List String :=
  distinct (((trimmedPieces ((s.text? mainSection "backends").getD "")).filter (!·.isEmpty)).map
    String.ofList)

/-- A backend under its host key. -/
abbrev Placed := String × Backend

/-- The backend with an id, as its section describes it, or what is wrong with the section. -/
def configured (s : Source) (id : String) : Except Notice Placed :=
  match nonEmpty? (s.text? id "url") with
  | none => .error (.backendIncomplete id)
  | some raw =>
    let text := withSlash raw
    match Url.ofText text with
    | .error fault => .error (.backendUrlInvalid id text fault)
    | .ok url =>
      if url.host?.isNone then .error (.backendWithoutHost id text)
      else
        match nonEmpty? (s.text? id "secret") with
        | none => .error (.backendIncomplete id)
        | some secret => .ok (url.hostKey, .ofUrl id url (.ofText secret))

/-- The listed backends whose sections are in order. -/
def placedBackends (s : Source) : List Placed :=
  (backendIds s).filterMap fun id => (configured s id).toOption

/-- What is wrong with the sections of listed backends. -/
def configuredNotices (s : Source) : List Notice :=
  (backendIds s).filterMap fun id =>
    match configured s id with
    | .ok _ => none
    | .error n => some n

/-- The host table of the listed backends. -/
def configuredTable (s : Source) : HostTable Backend := .ofList (placedBackends s)

/-! ## Allowed hosts -/

/-- The part of an entry before its first slash, and a notice if there is one. -/
def bareHost (entry : List Char) : List Char × List Notice :=
  match cut '/' entry with
  | (host, none) => (host, [])
  | (host, some _) => (host, [.pathRemoved (String.ofList entry)])

/-- The URL by which a host is keyed. -/
def hostUrl (host : List Char) : String := "https://" ++ String.ofList host ++ "/"

/-- The key of an allowed host, with what is wrong with the entry. -/
def allowedHost (entry : List Char) : Option String × List Notice :=
  let (host, notices) := bareHost entry
  if host.isEmpty then (none, notices)
  else
    match Url.ofText (hostUrl host) with
    | .ok url => ((nonEmpty? (some url.hostKey)), notices)
    | .error fault => (none, notices ++ [.hostnameInvalid (String.ofList host) fault])

/-- The keys of the allowed hosts, each once, in order. -/
def allowedHosts (raw : String) : List String :=
  distinct ((trimmedPieces raw).filterMap fun e => (allowedHost e).1)

/-- What is wrong with the entries of allowed hosts. -/
def allowedNotices (raw : String) : List Notice :=
  (trimmedPieces raw).flatMap fun e => (allowedHost e).2

end Switchboard.Tenancy
