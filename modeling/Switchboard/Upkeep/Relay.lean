import Switchboard.Upkeep.Application
/-
  The relay: how settings get from the file to the registry while several parties are at work. The
  watcher and the listener for hangups load the file and send what they have loaded into one queue;
  the loop takes it from the queue and applies it. A move is what one party does at a time. A run is
  any sequence of moves, so the parties may take turns in any way; a move that is not possible
  leaves everything as it is.

  A sender loads the file with one move and sends with a later one. In between anything may happen,
  also to the file.
-/
namespace Switchboard.Upkeep

open Switchboard.Settings Switchboard.Tenancy

/-- Where a sender is. -/
inductive Sender
  /-- It waits for its trigger. -/
  | waiting
  /-- It has read the file, which had been written `edition` times, and has not sent anything yet. -/
  | holding (file : File) (edition : Nat)
  /-- It has ended, and its end of the queue is gone. -/
  | ended

/-- Whether a sender has ended. -/
def Sender.isEnded : Sender → Bool
  | .ended => true
  | _ => false

/-- Whether a sender goes on after it has sent something: the watcher always does, the listener for
hangups as long as the receiver is there. -/
def Trigger.goesOn : Trigger → (received : Bool) → Bool
  | .fileChanged, _ => true
  | .hangup, received => received

/-- Where the loop is. -/
inductive Loop
  | running
  /-- It takes nothing any more, but its end of the queue is still there. -/
  | stopped
  /-- Its end of the queue is gone, with all that was left in the queue. -/
  | closed
  deriving DecidableEq, Repr

/-- Something that was sent. -/
structure Shipment where
  sender : Trigger
  /-- How often the file had been written when it was read. -/
  edition : Nat
  snapshot : Snapshot

/-- The relay, with a record of what was sent and taken. -/
structure Relay where
  file : File
  /-- How often the file has been written. -/
  edition : Nat
  /-- Whether the file has been written since the watcher last read it. -/
  unnoticed : Bool
  senders : Trigger → Sender
  queue : List Snapshot
  /-- Whether a shutdown has been announced, or nobody is left to announce one; the wait for it ends
  in both cases. -/
  shutdown : Bool
  loop : Loop
  registry : Registry
  /-- All that was sent, the first first. -/
  sent : List Shipment
  /-- All that was taken from the queue and applied, the first first. -/
  taken : List Snapshot

/-- What a party does at a time. -/
inductive Move
  /-- Somebody writes the file. -/
  | write (content : ByteArray)
  /-- A sender is triggered and reads the file. -/
  | load (t : Trigger)
  /-- A sender sends what it has read, if it loads. -/
  | send (t : Trigger)
  /-- A sender ends. -/
  | leave (t : Trigger)
  /-- A shutdown is announced. -/
  | shutDown
  /-- The loop takes the next settings and applies them, or finds that no more can come. -/
  | take
  /-- The loop sees that a shutdown was announced. -/
  | heed
  /-- The loop drops its end of the queue. -/
  | close

namespace Relay

/-- The relay at its start: nothing has been read or sent. -/
def start (r : Registry) (file : File) : Relay where
  file := file
  edition := 0
  unnoticed := false
  senders _ := .waiting
  queue := []
  shutdown := false
  loop := .running
  registry := r
  sent := []
  taken := []

/-- Whether what is sent is received. -/
def isOpen (x : Relay) : Bool := x.loop != .closed

/-- Whether all senders have ended. -/
def isDeserted (x : Relay) : Bool :=
  (x.senders .fileChanged).isEnded && (x.senders .hangup).isEnded

/-- The relay with a sender at another place. -/
def withSender (x : Relay) (t : Trigger) (s : Sender) : Relay :=
  { x with senders := fun u => if u = t then s else x.senders u }

/-- The file is written; the watcher has yet to notice. -/
def write (x : Relay) (content : ByteArray) : Relay :=
  { x with file := .bytes content, edition := x.edition + 1, unnoticed := true }

/-- A sender that waits reads the file. -/
def load (x : Relay) (t : Trigger) : Relay :=
  match x.senders t with
  | .waiting =>
    { x.withSender t (.holding x.file x.edition) with
      unnoticed := x.unnoticed && t != .fileChanged }
  | _ => x

/-- A sender that has read the file sends what it has read. -/
def send (x : Relay) (t : Trigger) : Relay :=
  match x.senders t with
  | .holding file edition =>
    let p := t.publish file x.isOpen
    { x.withSender t (if t.goesOn p.received then .waiting else .ended) with
      queue := x.queue ++ p.sent.toList
      sent := x.sent ++ p.sent.toList.map (Shipment.mk t edition) }
  | _ => x

/-- A sender that waits ends. -/
def leave (x : Relay) (t : Trigger) : Relay :=
  match x.senders t with
  | .waiting => x.withSender t .ended
  | _ => x

/-- The loop takes the next settings from the queue; it stops if the queue is empty for good. -/
def take (x : Relay) : Relay :=
  match x.loop, x.queue with
  | .running, s :: rest =>
    { x with
      queue := rest
      registry := (applied x.registry s).1
      taken := x.taken ++ [s] }
  | .running, [] => if x.isDeserted then { x with loop := .stopped } else x
  | _, _ => x

/-- The loop stops after a shutdown, whatever is in the queue. -/
def heed (x : Relay) : Relay :=
  if x.loop = .running ∧ x.shutdown = true then { x with loop := .stopped } else x

/-- The loop, once it has stopped, drops its end of the queue. -/
def close (x : Relay) : Relay :=
  if x.loop = .stopped then { x with loop := .closed, queue := [] } else x

/-- Makes a move. -/
def step (x : Relay) : Move → Relay
  | .write content => x.write content
  | .load t => x.load t
  | .send t => x.send t
  | .leave t => x.leave t
  | .shutDown => { x with shutdown := true }
  | .take => x.take
  | .heed => x.heed
  | .close => x.close

/-- Makes moves, one after the other. -/
def run (x : Relay) (moves : List Move) : Relay := moves.foldl step x

end Relay

end Switchboard.Upkeep
