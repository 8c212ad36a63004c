import Switchboard.Outbound.Payload
/-
  Frames of the server: the JSON text of its messages. A frame has one slot for each kind of
  payload; all slots are read, and the one that `type` names is the payload.
-/
namespace Switchboard.Outbound

open Switchboard.Json

/-- A frame as it is written, with one slot for each kind. -/
structure Frame where
  id : Option String
  kind : String
  problem : Option Problem
  hello : Option Hello
  bye : Option Bye
  room : Option Room
  message : Option Delivery
  control : Option Delivery
  event : Option Event

def Frame.record : Record Frame where
  name := "ServerEnvelope"
  types := [Option String, String, Option Problem, Option Hello, Option Bye, Option Room,
    Option Delivery, Option Delivery, Option Event]
  fields := .cons (.optional "id" .text) (.cons (.required "type" .text)
    (.cons (.optional "error" Problem.record.codec) (.cons (.optional "hello" Hello.record.codec)
    (.cons (.optional "bye" Bye.record.codec) (.cons (.optional "room" Room.record.codec)
    (.cons (.optional "message" Delivery.message.codec)
    (.cons (.optional "control" Delivery.control.codec)
    (.cons (.optional "event" Event.record.codec) .nil))))))))
  make := fun (id, kind, problem, hello, bye, room, message, control, event, ()) =>
    ⟨id, kind, problem, hello, bye, room, message, control, event⟩
  parts f := (f.id, f.kind, f.problem, f.hello, f.bye, f.room, f.message, f.control, f.event, ())

/-- A frame in which no slot is filled. -/
def Frame.bare (id : Option String) (kind : String) : Frame :=
  ⟨id, kind, none, none, none, none, none, none, none⟩

/-- The kinds of messages. -/
def kinds : List String := ["error", "hello", "bye", "room", "message", "control", "event"]

/-- The refusal of a frame whose payload is missing. -/
def payloadMissing (kind : String) : Refusal := ⟨.missingField kind, none⟩

/-- The payload in the slot that `type` names; a `bye` needs none. -/
def Frame.payload (f : Frame) : Except Refusal Payload :=
  if f.kind = "error" then do .ok (.problem (← filled payloadMissing "error" f.problem))
  else if f.kind = "hello" then do .ok (.hello (← filled payloadMissing "hello" f.hello))
  else if f.kind = "bye" then .ok (.bye (f.bye.getD ⟨""⟩))
  else if f.kind = "room" then do .ok (.room (← filled payloadMissing "room" f.room))
  else if f.kind = "message" then do .ok (.message (← filled payloadMissing "message" f.message))
  else if f.kind = "control" then do .ok (.control (← filled payloadMissing "control" f.control))
  else if f.kind = "event" then do .ok (.event (← filled payloadMissing "event" f.event))
  else .error ⟨.unknownVariant f.kind kinds, none⟩

/-- The message in a frame; an empty id is none. -/
def Message.ofFrame (f : Frame) : Except Refusal Message := do
  .ok ⟨f.id.filter (· ≠ ""), ← f.payload⟩

/-- Reads a message. A frame without its payload is refused before anything that follows it. -/
def Message.ofText (text : String) : Except Refusal Message := do
  let (f, rest) ← Frame.record.codec.atStart text.toList
  let m ← Message.ofFrame f
  atEnd text.toList rest
  .ok m

/-- The frame of a message, with the slot of its payload filled. -/
def Message.frame (m : Message) : Frame :=
  let bare := Frame.bare m.id m.payload.kind
  match m.payload with
  | .problem p => { bare with problem := some p }
  | .hello h => { bare with hello := some h }
  | .bye b => { bare with bye := some b }
  | .room r => { bare with room := some r }
  | .message d => { bare with message := some d }
  | .control d => { bare with control := some d }
  | .event e => { bare with event := some e }

/-- The text of a message. -/
def Message.toText (m : Message) : String := Frame.record.codec.toText m.frame

end Switchboard.Outbound
