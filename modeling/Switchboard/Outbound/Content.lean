import Switchboard.Outbound.Payload
/-
  What the server looks at in its own messages before it sends them: whether the connection closes
  afterwards, whether a chat is to be refreshed, whether participants changed.
-/
namespace Switchboard.Outbound

open Switchboard.Json

/-- A remark about the chat of a room. -/
structure Chat where
  refresh : Bool
  deriving DecidableEq, Repr

def Chat.record : Record Chat where
  name := "MessageServerMessageDataChat"
  types := [Bool]
  fields := .cons (.withDefault "refresh" .flag false) .nil
  make := fun (refresh, ()) => ⟨refresh⟩
  parts c := (c.refresh, ())

/-- The part of a message's data that is looked at. -/
structure Content where
  kind : String
  chat : Option Chat
  deriving DecidableEq, Repr

def Content.record : Record Content where
  name := "MessageServerMessageData"
  types := [String, Option Chat]
  fields := .cons (.text "type") (.cons (.optional "chat" Chat.record.codec) .nil)
  make := fun (kind, chat, ()) => ⟨kind, chat⟩
  parts c := (c.kind, c.chat, ())

/-- Whether content asks to refresh the chat. -/
def Content.refreshesChat (c : Content) : Bool :=
  c.kind == "chat" && match c.chat with
    | some chat => chat.refresh
    | none => false

/-- Whether a message asks to refresh the chat; data that cannot be read does not. -/
def Message.refreshesChat (m : Message) : Bool :=
  match m.payload with
  | .message ⟨_, some data⟩ =>
    match Content.record.codec.ofText data.text with
    | .ok c => c.refreshesChat
    | .error _ => false
  | _ => false

/-- Whether a message tells that participants changed. -/
def Message.updatesParticipants (m : Message) : Bool :=
  match m.payload with
  | .event e => e.concerns "participants" "update"
  | _ => false

/-- What is known of the session that a message goes to. -/
structure Session where
  room : Option String

/-- Whether the connection closes once the message is sent: after a `bye`, and after an event that
takes the room from the session that is in it. -/
def Message.closesAfter (m : Message) (session : Option Session) : Bool :=
  match m.payload with
  | .bye _ => true
  | .event e =>
    e.concerns "roomlist" "disinvite" && match session, e.disinvite with
      | some s, some d => s.room == some d.roomId
      | _, _ => false
  | _ => false

end Switchboard.Outbound
