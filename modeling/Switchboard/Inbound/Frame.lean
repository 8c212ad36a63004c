import Switchboard.Inbound.Validity
/-
  Frames of clients: the JSON text of a request. A frame has one slot for each known kind of
  payload; only the slot that `type` names is looked at.
-/
namespace Switchboard.Inbound

open Switchboard.Json

/-- A frame as it is written, with one slot for each kind. -/
structure Frame where
  id : Option String
  kind : String
  hello : Option Hello
  bye : Option Bye
  room : Option Room
  message : Option Message
  control : Option Message
  deriving DecidableEq, Repr

def Frame.record : Record Frame where
  name := "ClientEnvelope"
  types := [Option String, String, Option Hello, Option Bye, Option Room, Option Message,
    Option Message]
  fields := .cons (.optional "id" .text) (.cons (.text "type")
    (.cons (.optional "hello" Hello.record.codec) (.cons (.optional "bye" Bye.record.codec)
    (.cons (.optional "room" Room.record.codec) (.cons (.optional "message" Message.record.codec)
    (.cons (.optional "control" Message.record.codec) .nil))))))
  make := fun (id, kind, hello, bye, room, message, control, ()) =>
    ⟨id, kind, hello, bye, room, message, control⟩
  parts f := (f.id, f.kind, f.hello, f.bye, f.room, f.message, f.control, ())

/-- A frame in which no slot is filled. -/
def Frame.bare (id : Option String) (kind : String) : Frame :=
  ⟨id, kind, none, none, none, none, none⟩

/-- The payload in the slot that `type` names; a `bye` needs none. -/
def Frame.payload (f : Frame) : Except Violation Payload :=
  if f.kind = "" then .error .typeMissing
  else if f.kind = "hello" then do .ok (.hello (← filled .payloadMissing "hello" f.hello))
  else if f.kind = "bye" then .ok (.bye (f.bye.getD ⟨⟩))
  else if f.kind = "room" then do .ok (.room (← filled .payloadMissing "room" f.room))
  else if f.kind = "message" then do .ok (.message (← filled .payloadMissing "message" f.message))
  else if f.kind = "control" then do .ok (.control (← filled .payloadMissing "control" f.control))
  else .ok (.other f.kind)

/-- The id of a frame; an empty id is none. -/
def Frame.requestId (f : Frame) : Option String := f.id.filter (· ≠ "")

/-- Why a text is no request. -/
inductive Rejection
  | malformed (refusal : Refusal)
  | invalid (id : Option String) (violation : Violation)
  deriving DecidableEq

/-- The text of a rejection. -/
def Rejection.message : Rejection → String
  | .malformed refusal => "invalid message format: " ++ refusal.message
  | .invalid _ violation => violation.message

/-- The payload of a frame, checked. -/
def Frame.checkedPayload (f : Frame) : Except Violation Payload := do
  let p ← f.payload
  p.check
  .ok p

/-- The request in a frame. -/
def Request.ofFrame (f : Frame) : Except Rejection Request :=
  match f.checkedPayload with
  | .ok p => .ok ⟨f.requestId, p⟩
  | .error v => .error (.invalid f.requestId v)

/-- Reads a request. -/
def Request.ofText (text : String) : Except Rejection Request :=
  match Frame.record.codec.ofText text with
  | .ok f => Request.ofFrame f
  | .error refusal => .error (.malformed refusal)

/-- The frame of a request, with the slot of its payload filled. -/
def Request.frame (r : Request) : Frame :=
  let bare := Frame.bare r.id r.payload.kind
  match r.payload with
  | .hello h => { bare with hello := some h }
  | .bye b => { bare with bye := some b }
  | .room m => { bare with room := some m }
  | .message m => { bare with message := some m }
  | .control m => { bare with control := some m }
  | .other _ => bare

/-- The text of a request. -/
def Request.toText (r : Request) : String := Frame.record.codec.toText r.frame

end Switchboard.Inbound
