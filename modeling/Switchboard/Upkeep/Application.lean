import Switchboard.Tenancy.Reload
import Switchboard.Upkeep.Publication
/-
  Application: the published settings are applied to the registry one after the other, until no more
  can come.
-/
namespace Switchboard.Upkeep

open Switchboard.Settings Switchboard.Tenancy

/-- The notice that an outcome gets beyond those of the reload itself. -/
def outcomeNotices : Outcome → List Notice
  | .skipped => [.modeFixed]
  | .applied s => if s.isUnchanged then [.unchanged] else []

/-- Applies settings to a registry. -/
def applied (r : Registry) (s : Snapshot) : Registry × List Notice :=
  let l := r.reload s.source
  (l.registry, l.notices ++ outcomeNotices l.outcome)

/-- Applies settings one after the other. -/
def appliedAll (r : Registry) : List Snapshot → Registry × List Notice
  | [] => (r, [])
  | s :: rest =>
    let (r, notices) := applied r s
    let (r, more) := appliedAll r rest
    (r, notices ++ more)

/-- Applies everything that has been sent, and stops. -/
def run (r : Registry) (sent : List Snapshot) : Registry × List Notice :=
  let (r, notices) := appliedAll r sent
  (r, notices ++ [.loopStopped])

/-- Handles a trigger: the file is loaded, and what it holds is applied. -/
def handled (r : Registry) (t : Trigger) (file : File) : Registry × List Notice :=
  let p := t.publish file true
  match p.sent with
  | none => (r, p.notices)
  | some s =>
    let (r, notices) := applied r s
    (r, p.notices ++ notices)

end Switchboard.Upkeep
