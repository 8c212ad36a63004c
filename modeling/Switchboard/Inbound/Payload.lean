import Switchboard.Json.Record
/-
  What clients send: the payloads of requests, one type for each kind, and how each is written.
-/
namespace Switchboard.Inbound

open Switchboard.Json

/-- The credentials of a hello, as sent. An empty kind means the kind `client`. -/
structure Auth where
  kind : String
  params : Option Raw
  url : String
  deriving DecidableEq, Repr

/-- A request to open a session, or to resume the session `resumeId`. -/
structure Hello where
  version : String
  resumeId : String
  features : List String
  auth : Auth
  deriving DecidableEq, Repr

/-- A request to close the session. -/
structure Bye where
  deriving DecidableEq, Repr

/-- A request to join a room; an empty room means to leave. -/
structure Room where
  roomId : String
  sessionId : String
  deriving DecidableEq, Repr

/-- Whom a message is for. -/
structure Recipient where
  kind : String
  sessionId : String
  userId : String
  deriving DecidableEq, Repr

/-- A message to be passed on. -/
structure Message where
  recipient : Recipient
  data : Option Raw
  deriving DecidableEq, Repr

/-- The payload of a request. A control message has the form of a message; a kind that this layer
does not know is left to others. -/
inductive Payload
  | hello (h : Hello)
  | bye (b : Bye)
  | room (r : Room)
  | message (m : Message)
  | control (m : Message)
  | other (kind : String)
  deriving DecidableEq, Repr

/-- A request, with the id by which the answer refers to it. -/
structure Request where
  id : Option String
  payload : Payload
  deriving DecidableEq, Repr

/-- The kind of a payload. -/
def Payload.kind : Payload → String
  | .hello _ => "hello"
  | .bye _ => "bye"
  | .room _ => "room"
  | .message _ => "message"
  | .control _ => "control"
  | .other kind => kind

/-! ## How payloads are written -/

def Auth.empty : Auth := ⟨"", none, ""⟩

def Auth.record : Record Auth where
  name := "HelloClientMessageAuth"
  types := [String, Option Raw, String]
  fields := .cons (.textOrEmpty "type") (.cons (.nullable "params" .raw) (.cons (.text "url") .nil))
  make := fun (kind, params, url, ()) => ⟨kind, params, url⟩
  parts a := (a.kind, a.params, a.url, ())

def Hello.record : Record Hello where
  name := "HelloClientMessage"
  types := [String, String, List String, Auth]
  fields := .cons (.text "version") (.cons (.text "resumeid") (.cons (.listOrEmpty "features" .text)
    (.cons (.withDefault "auth" Auth.record.codec .empty) .nil)))
  make := fun (version, resumeId, features, auth, ()) => ⟨version, resumeId, features, auth⟩
  parts h := (h.version, h.resumeId, h.features, h.auth, ())

def Bye.record : Record Bye where
  name := "ByeClientMessage"
  types := []
  fields := .nil
  make _ := ⟨⟩
  parts _ := ()

def Room.record : Record Room where
  name := "RoomClientMessage"
  types := [String, String]
  fields := .cons (.text "roomid") (.cons (.textOrEmpty "sessionid") .nil)
  make := fun (roomId, sessionId, ()) => ⟨roomId, sessionId⟩
  parts r := (r.roomId, r.sessionId, ())

def Recipient.empty : Recipient := ⟨"", "", ""⟩

def Recipient.record : Record Recipient where
  name := "MessageClientMessageRecipient"
  types := [String, String, String]
  fields := .cons (.text "type") (.cons (.textOrEmpty "sessionid") (.cons (.textOrEmpty "userid")
    .nil))
  make := fun (kind, sessionId, userId, ()) => ⟨kind, sessionId, userId⟩
  parts r := (r.kind, r.sessionId, r.userId, ())

def Message.record : Record Message where
  name := "MessageClientMessage"
  types := [Recipient, Option Raw]
  fields := .cons (.withDefault "recipient" Recipient.record.codec .empty)
    (.cons (.nullable "data" .raw) .nil)
  make := fun (recipient, data, ()) => ⟨recipient, data⟩
  parts m := (m.recipient, m.data, ())

end Switchboard.Inbound
