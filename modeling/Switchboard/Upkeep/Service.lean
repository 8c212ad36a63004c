import Switchboard.Upkeep.Application
/-
  The service that keeps a registry in line with a file: it watches the file, listens for hangups,
  and applies what is published.
-/
namespace Switchboard.Upkeep

open Switchboard.Settings Switchboard.Tenancy

/-- A running service, with the file as it is. -/
structure Service where
  registry : Registry
  file : File

/-- Something that happens to a service. -/
inductive Happening
  | write (content : ByteArray)
  | hangup

namespace Service

/-- Starts a service. There is nothing to watch without a file; starting alone loads nothing. -/
def start? (r : Registry) (file : File) : Option (Service × List Notice) :=
  match file with
  | .missing => none
  | file => some (⟨r, file⟩, [.watching])

/-- What a happening leads to. -/
def handle (s : Service) : Happening → Service × List Notice
  | .write content =>
    let (r, notices) := handled s.registry .fileChanged (.bytes content)
    (⟨r, .bytes content⟩, notices)
  | .hangup =>
    let (r, notices) := handled s.registry .hangup s.file
    ({ s with registry := r }, notices)

/-- The notices when a service stops. -/
def stopNotices : List Notice := [.loopStopped]

end Service

end Switchboard.Upkeep
