import Switchboard.Journal
import Switchboard.Settings.File
/-
  Publication: when something hints at new settings, the file is loaded and its content is sent to
  whoever applies it. A file that does not load is reported and sends nothing.
-/
namespace Switchboard.Upkeep

open Switchboard.Settings

/-- What comes of loading a file for a receiver. -/
structure Publication where
  /-- What is sent. -/
  sent : Option Snapshot
  /-- Whether the receiver is still there. -/
  received : Bool
  notices : List Notice

/-- Loads a file and sends its content, if the receiver is there. -/
def publish (file : File) (isOpen : Bool) : Publication :=
  match file.load with
  | .ok s => ⟨if isOpen then some s else none, isOpen, []⟩
  | .error _ => ⟨none, isOpen, [.loadFailed]⟩

/-- What makes the file be loaded. -/
inductive Trigger
  | fileChanged
  | hangup
  deriving DecidableEq, Repr

/-- The notice of a trigger. -/
def Trigger.notice : Trigger → Notice
  | .fileChanged => .fileChanged
  | .hangup => .hangupReceived

/-- What comes of a trigger. -/
def Trigger.publish (t : Trigger) (file : File) (isOpen : Bool) : Publication :=
  let p := Upkeep.publish file isOpen
  { p with notices := t.notice :: p.notices }

end Switchboard.Upkeep
