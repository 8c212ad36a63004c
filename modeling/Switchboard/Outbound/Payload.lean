import Switchboard.Outbound.Event
import Switchboard.Outbound.Problem
/-
  What the server sends: the payloads of its messages.
-/
namespace Switchboard.Outbound

open Switchboard.Json

/-- What the server says about itself. -/
structure ServerInfo where
  version : String
  features : List String
  deriving DecidableEq

def ServerInfo.record : Record ServerInfo where
  name := "HelloServerMessageServer"
  types := [String, List String]
  fields := .cons (.required "version" .text) (.cons (.listOrEmpty "features" .text) .nil)
  make := fun (version, features, ()) => ⟨version, features⟩
  parts s := (s.version, s.features, ())

/-- The answer to a hello: the session that has been opened or resumed. -/
structure Hello where
  version : String
  sessionId : String
  resumeId : String
  userId : String
  server : Option ServerInfo
  deriving DecidableEq

def Hello.record : Record Hello where
  name := "HelloServerMessage"
  types := [String, String, String, String, Option ServerInfo]
  fields := .cons (.required "version" .text) (.cons (.required "sessionid" .text)
    (.cons (.required "resumeid" .text) (.cons (.required "userid" .text)
    (.cons (.optional "server" ServerInfo.record.codec) .nil))))
  make := fun (version, sessionId, resumeId, userId, server, ()) =>
    ⟨version, sessionId, resumeId, userId, server⟩
  parts h := (h.version, h.sessionId, h.resumeId, h.userId, h.server, ())

/-- The end of a session. -/
structure Bye where
  reason : String
  deriving DecidableEq

def Bye.record : Record Bye where
  name := "ByeServerMessage"
  types := [String]
  fields := .cons (.text "reason") .nil
  make := fun (reason, ()) => ⟨reason⟩
  parts b := (b.reason, ())

/-- The room that a session is in from now on. -/
structure Room where
  roomId : String
  properties : Option Raw
  deriving DecidableEq

def Room.record : Record Room where
  name := "RoomServerMessage"
  types := [String, Option Raw]
  fields := .cons (.required "roomid" .text) (.cons (.optional "properties" .raw) .nil)
  make := fun (roomId, properties, ()) => ⟨roomId, properties⟩
  parts r := (r.roomId, r.properties, ())

/-- Who sent a message. -/
structure Sender where
  kind : String
  sessionId : String
  userId : String
  deriving DecidableEq

def Sender.record : Record Sender where
  name := "MessageServerMessageSender"
  types := [String, String, String]
  fields := .cons (.required "type" .text) (.cons (.textOrEmpty "sessionid")
    (.cons (.textOrEmpty "userid") .nil))
  make := fun (kind, sessionId, userId, ()) => ⟨kind, sessionId, userId⟩
  parts s := (s.kind, s.sessionId, s.userId, ())

/-- A message that is passed on. -/
structure Delivery where
  sender : Option Sender
  data : Option Raw
  deriving DecidableEq

/-- Messages and control messages have one form; refusals name them differently. -/
def Delivery.record (name : String) : Record Delivery where
  name := name
  types := [Option Sender, Option Raw]
  fields := .cons (.optional "sender" Sender.record.codec) (.cons (.nullable "data" .raw) .nil)
  make := fun (sender, data, ()) => ⟨sender, data⟩
  parts d := (d.sender, d.data, ())

/-- How messages are read and written. -/
def Delivery.message : Record Delivery := Delivery.record "MessageServerMessage"

/-- How control messages are read and written. -/
def Delivery.control : Record Delivery := Delivery.record "ControlServerMessage"

/-- The payload of a message of the server. -/
inductive Payload
  | problem (p : Problem)
  | hello (h : Hello)
  | bye (b : Bye)
  | room (r : Room)
  | message (d : Delivery)
  | control (d : Delivery)
  | event (e : Event)
  deriving DecidableEq

/-- The kind of a payload. -/
def Payload.kind : Payload → String
  | .problem _ => "error"
  | .hello _ => "hello"
  | .bye _ => "bye"
  | .room _ => "room"
  | .message _ => "message"
  | .control _ => "control"
  | .event _ => "event"

/-- A message of the server; one that answers a request has the id of the request. -/
structure Message where
  id : Option String
  payload : Payload
  deriving DecidableEq

/-- The message that something went wrong. -/
def Message.problem (id : Option String) (p : Problem) : Message := ⟨id, .problem p⟩

/-- The message of an event, which answers no request. -/
def Message.event (e : Event) : Message := ⟨none, .event e⟩

end Switchboard.Outbound
