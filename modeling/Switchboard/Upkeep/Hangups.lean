import Switchboard.Upkeep.Publication
/-
  Hangups: at every hangup the file is loaded and sent, until nobody receives it any more.
-/
namespace Switchboard.Upkeep

open Switchboard.Settings

/-- A hangup: the file at that time, and whether the receiver is still there. -/
structure Hangup where
  file : File
  isOpen : Bool

/-- What has been forwarded of a sequence of hangups. -/
structure Forwarded where
  sent : List Snapshot
  notices : List Notice
  /-- Whether the forwarding goes on. -/
  goesOn : Bool

/-- Forwards hangups; the first that finds no receiver is the last. -/
def forward : List Hangup → Forwarded
  | [] => ⟨[], [], true⟩
  | h :: rest =>
    let p := Trigger.hangup.publish h.file h.isOpen
    if p.received then
      let f := forward rest
      ⟨p.sent.toList ++ f.sent, p.notices ++ f.notices, f.goesOn⟩
    else ⟨p.sent.toList, p.notices, false⟩

end Switchboard.Upkeep
