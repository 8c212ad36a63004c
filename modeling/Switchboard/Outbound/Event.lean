import Switchboard.Json.Record
import Switchboard.Json.Value
/-
  Events: what clients are told without having asked. The target of an event says which of its
  parts are filled.
-/
namespace Switchboard.Outbound

open Switchboard.Json

/-- A session that an event is about. -/
structure SessionEntry where
  sessionId : String
  userId : String
  user : Option Raw
  deriving DecidableEq

def SessionEntry.record : Record SessionEntry where
  name := "EventServerMessageSessionEntry"
  types := [String, String, Option Raw]
  fields := .cons (.required "sessionid" .text) (.cons (.required "userid" .text)
    (.cons (.optional "user" .raw) .nil))
  make := fun (sessionId, userId, user, ()) => ⟨sessionId, userId, user⟩
  parts e := (e.sessionId, e.userId, e.user, ())

/-- A room that an event is about. -/
structure RoomEvent where
  roomId : String
  properties : Option Raw
  inCall : Option Raw
  changed : List Object
  users : List Object
  deriving DecidableEq

/-- An event about a room of which nothing more is said. -/
def RoomEvent.plain (roomId : String) : RoomEvent := ⟨roomId, none, none, [], []⟩

def RoomEvent.record : Record RoomEvent where
  name := "RoomEventServerMessage"
  types := [String, Option Raw, Option Raw, List Object, List Object]
  fields := .cons (.required "roomid" .text) (.cons (.optional "properties" .raw)
    (.cons (.optional "incall" .raw) (.cons (.listOrEmpty "changed" .object)
    (.cons (.listOrEmpty "users" .object) .nil))))
  make := fun (roomId, properties, inCall, changed, users, ()) =>
    ⟨roomId, properties, inCall, changed, users⟩
  parts e := (e.roomId, e.properties, e.inCall, e.changed, e.users, ())

/-- A message to everybody in a room. -/
structure RoomMessage where
  roomId : String
  data : Option Raw
  deriving DecidableEq

def RoomMessage.record : Record RoomMessage where
  name := "RoomEventMessage"
  types := [String, Option Raw]
  fields := .cons (.required "roomid" .text) (.cons (.optional "data" .raw) .nil)
  make := fun (roomId, data, ()) => ⟨roomId, data⟩
  parts m := (m.roomId, m.data, ())

/-- An event. -/
structure Event where
  target : String
  kind : String
  join : List SessionEntry
  leave : List String
  change : List SessionEntry
  invite : Option RoomEvent
  disinvite : Option RoomEvent
  update : Option RoomEvent
  message : Option RoomMessage
  deriving DecidableEq

/-- An event none of whose parts is filled. -/
def Event.plain (target kind : String) : Event := ⟨target, kind, [], [], [], none, none, none, none⟩

def Event.record : Record Event where
  name := "EventServerMessage"
  types := [String, String, List SessionEntry, List String, List SessionEntry, Option RoomEvent,
    Option RoomEvent, Option RoomEvent, Option RoomMessage]
  fields := .cons (.required "target" .text) (.cons (.required "type" .text)
    (.cons (.listOrEmpty "join" SessionEntry.record.codec) (.cons (.listOrEmpty "leave" .text)
    (.cons (.listOrEmpty "change" SessionEntry.record.codec)
    (.cons (.optional "invite" RoomEvent.record.codec)
    (.cons (.optional "disinvite" RoomEvent.record.codec)
    (.cons (.optional "update" RoomEvent.record.codec)
    (.cons (.optional "message" RoomMessage.record.codec) .nil))))))))
  make := fun (target, kind, join, leave, change, invite, disinvite, update, message, ()) =>
    ⟨target, kind, join, leave, change, invite, disinvite, update, message⟩
  parts e := (e.target, e.kind, e.join, e.leave, e.change, e.invite, e.disinvite, e.update,
    e.message, ())

/-- Whether an event has this target and kind. -/
def Event.concerns (e : Event) (target kind : String) : Bool := e.target == target && e.kind == kind

end Switchboard.Outbound
