import Switchboard.Inbound.Frame
import Switchboard.Proofs.Json.Records
/-
  Requests come back as they were sent. A frame is read as it is written if the blobs in it are JSON
  texts other than `null` (`Frame.restores`), and a request that has been read has such blobs, so it
  is one that a client may send (`sendable_of_ofText`). The two meet in `request_ofText_toText`.
-/
namespace Switchboard.Inbound

open Switchboard.Json

/-! ## Blobs -/

/-- The blobs of a hello: the parameters of its credentials. -/
def Hello.blobs (h : Hello) : List Raw := h.auth.params.toList

/-- The blobs of a message: its data. -/
def Message.blobs (m : Message) : List Raw := m.data.toList

/-- The blobs of a payload. -/
def Payload.blobs : Payload → List Raw
  | .hello h => h.blobs
  | .message m | .control m => m.blobs
  | .bye _ | .room _ | .other _ => []

/-- The blobs in all slots of a frame. -/
def Frame.blobs (f : Frame) : List Raw :=
  f.hello.toList.flatMap Hello.blobs ++ f.message.toList.flatMap Message.blobs ++
    f.control.toList.flatMap Message.blobs

theorem Request.blobs_frame (m : Request) : m.frame.blobs = m.payload.blobs := by
  obtain ⟨id, payload⟩ := m
  cases payload <;> simp [frame, Frame.bare, Frame.blobs, Payload.blobs]

/-! ## From records to texts and back -/

section

variable {d : Nat}

theorem Auth.restores {a : Auth} (h : ∀ b ∈ a.params, b.Proper) :
    Auth.record.codec.Restores (d + 1) a :=
  Record.restores (by decide) rfl
    ⟨Field.restores_textOrEmpty _, Field.restores_nullableRaw h, restores_text _ _, trivial⟩

theorem Hello.restores {h : Hello} (hblobs : ∀ b ∈ h.blobs, b.Proper) :
    Hello.record.codec.Restores (d + 2) h :=
  Record.restores (by decide) rfl
    ⟨restores_text _ _, restores_text _ _, Field.restores_texts _,
      Auth.restores fun b hb => hblobs b (Option.mem_toList.mpr hb), trivial⟩

theorem Bye.restores (b : Bye) : Bye.record.codec.Restores (d + 1) b :=
  Record.restores (by decide) rfl trivial

theorem Room.restores (r : Room) : Room.record.codec.Restores (d + 1) r :=
  Record.restores (by decide) rfl ⟨restores_text _ _, Field.restores_textOrEmpty _, trivial⟩

theorem Recipient.restores (r : Recipient) : Recipient.record.codec.Restores (d + 1) r :=
  Record.restores (by decide) rfl
    ⟨restores_text _ _, Field.restores_textOrEmpty _, Field.restores_textOrEmpty _, trivial⟩

theorem Message.restores {m : Message} (hblobs : ∀ b ∈ m.blobs, b.Proper) :
    Message.record.codec.Restores (d + 2) m :=
  Record.restores (by decide) rfl
    ⟨Recipient.restores m.recipient,
      Field.restores_nullableRaw fun b hb => hblobs b (Option.mem_toList.mpr hb), trivial⟩

theorem Frame.restores {f : Frame} (hblobs : ∀ b ∈ f.blobs, b.Proper) :
    Frame.record.codec.Restores (d + 3) f := by
  simp only [Frame.blobs, List.mem_append, List.mem_flatMap, Option.mem_toList] at hblobs
  exact Record.restores (by decide) rfl
    ⟨Field.restores_optionalText _, restores_text _ _,
      Field.restores_optionalRecord fun h hh =>
        Hello.restores fun b hb => hblobs b (.inl (.inl ⟨h, hh, hb⟩)),
      Field.restores_optionalRecord fun b _ => b.restores,
      Field.restores_optionalRecord fun r _ => r.restores,
      Field.restores_optionalRecord fun m hm =>
        Message.restores fun b hb => hblobs b (.inl (.inr ⟨m, hm, hb⟩)),
      Field.restores_optionalRecord fun m hm =>
        Message.restores fun b hb => hblobs b (.inr ⟨m, hm, hb⟩), trivial⟩

end

/-! ## From texts to records -/

theorem Auth.proper_of_reads {a : Auth} (h : Auth.record.codec.Reads a) :
    ∀ b ∈ a.params, b.Proper := by
  obtain ⟨⟨kind, params, url, ⟨⟩⟩, rfl, -, hparams, -⟩ := Record.reads h
  exact Field.Reads.proper (.inr hparams)

theorem Hello.proper_of_reads {h : Hello} (hread : Hello.record.codec.Reads h) :
    ∀ b ∈ h.blobs, b.Proper := by
  obtain ⟨⟨version, resumeId, features, auth, ⟨⟩⟩, rfl, -, -, -, hauth, -⟩ := Record.reads hread
  intro b hb
  rw [Hello.blobs, Option.mem_toList] at hb
  rcases hauth with hauth | hauth
  · exact Auth.proper_of_reads hauth b hb
  · cases hauth
    cases hb

theorem Message.proper_of_reads {m : Message} (h : Message.record.codec.Reads m) :
    ∀ b ∈ m.blobs, b.Proper := by
  obtain ⟨⟨recipient, data, ⟨⟩⟩, rfl, -, hdata, -⟩ := Record.reads h
  exact fun b hb => Field.Reads.proper (.inr hdata) b (Option.mem_toList.mp hb)

theorem Frame.proper_of_reads {f : Frame} (h : Frame.record.codec.Reads f) :
    ∀ b ∈ f.blobs, b.Proper := by
  obtain ⟨⟨id, kind, hello, bye, room, message, control, ⟨⟩⟩, rfl, -, -, hhello, -, -, hmessage,
    hcontrol, -⟩ := Record.reads h
  intro b hb
  simp only [Frame.blobs, List.mem_append, List.mem_flatMap, Option.mem_toList] at hb
  rcases hb with (⟨h, hh, hb⟩ | ⟨m, hm, hb⟩) | ⟨m, hm, hb⟩
  · exact Hello.proper_of_reads (hhello.of_optional_some h hh) b hb
  · exact Message.proper_of_reads (hmessage.of_optional_some m hm) b hb
  · exact Message.proper_of_reads (hcontrol.of_optional_some m hm) b hb

/-! ## The payload of a frame -/

/-- The payload that a frame holds: it is in the slot that the frame names, or is of a kind that
    needs no slot. -/
inductive Frame.Holds (f : Frame) : Payload → Prop
  | hello (h : Hello) (kind : f.kind = "hello") (slot : f.hello = some h) : Holds f (.hello h)
  | bye (kind : f.kind = "bye") : Holds f (.bye (f.bye.getD ⟨⟩))
  | room (r : Room) (kind : f.kind = "room") (slot : f.room = some r) : Holds f (.room r)
  | message (m : Message) (kind : f.kind = "message") (slot : f.message = some m) :
      Holds f (.message m)
  | control (m : Message) (kind : f.kind = "control") (slot : f.control = some m) :
      Holds f (.control m)
  | other (kind : f.kind ∉ ["", "hello", "bye", "room", "message", "control"]) :
      Holds f (.other f.kind)

theorem Frame.payload_eq_ok_iff {f : Frame} {p : Payload} : f.payload = .ok p ↔ f.Holds p := by
  constructor
  · intro h
    unfold payload at h
    split at h
    · cases h
    split at h
    · obtain ⟨a, hslot, h⟩ := bind_eq_ok.mp h
      cases h
      exact .hello a ‹_› (filled_eq_ok.mp hslot)
    split at h
    · cases h
      exact .bye ‹_›
    split at h
    · obtain ⟨a, hslot, h⟩ := bind_eq_ok.mp h
      cases h
      exact .room a ‹_› (filled_eq_ok.mp hslot)
    split at h
    · obtain ⟨a, hslot, h⟩ := bind_eq_ok.mp h
      cases h
      exact .message a ‹_› (filled_eq_ok.mp hslot)
    split at h
    · obtain ⟨a, hslot, h⟩ := bind_eq_ok.mp h
      cases h
      exact .control a ‹_› (filled_eq_ok.mp hslot)
    · next hempty hhello hbye hroom hmessage hcontrol =>
      cases h
      refine .other ?_
      simp only [List.mem_cons, List.not_mem_nil, or_false, not_or]
      exact ⟨hempty, hhello, hbye, hroom, hmessage, hcontrol⟩
  · obtain ⟨id, kind, hello, bye, room, message, control⟩ := f
    rintro (⟨_, hkind, hslot⟩ | hkind | ⟨_, hkind, hslot⟩ | ⟨_, hkind, hslot⟩ |
      ⟨_, hkind, hslot⟩ | hkind)
    · cases hkind; cases hslot; rfl
    · cases hkind; rfl
    · cases hkind; cases hslot; rfl
    · cases hkind; cases hslot; rfl
    · cases hkind; cases hslot; rfl
    · simp only [List.mem_cons, List.not_mem_nil, or_false, not_or] at hkind
      obtain ⟨hempty, hhello, hbye, hroom, hmessage, hcontrol⟩ := hkind
      exact (if_neg hempty).trans <| (if_neg hhello).trans <| (if_neg hbye).trans <|
        (if_neg hroom).trans <| (if_neg hmessage).trans <| if_neg hcontrol

/-- A payload brings no blobs that the frame has not. -/
theorem Frame.Holds.blobs_subset {f : Frame} {p : Payload} (h : f.Holds p) :
    ∀ b ∈ p.blobs, b ∈ f.blobs := by
  intro b hb
  cases h with
  | hello h kind slot =>
    simp only [Frame.blobs, slot, List.mem_append, Option.toList_some, List.flatMap_singleton]
    exact .inl (.inl hb)
  | message m kind slot =>
    simp only [Frame.blobs, slot, List.mem_append, Option.toList_some, List.flatMap_singleton]
    exact .inl (.inr hb)
  | control m kind slot =>
    simp only [Frame.blobs, slot, List.mem_append, Option.toList_some, List.flatMap_singleton]
    exact .inr hb
  | bye | room | other => cases hb

/-! ## Requests -/

/-- A request as a client may send it: it is valid, its id is not empty, a kind that this layer does
    not know is a name of its own, and its blobs are JSON texts other than `null`. -/
structure Request.Sendable (m : Request) : Prop where
  valid : m.payload.check = .ok ()
  id_ne : m.id ≠ some ""
  other : ∀ kind, m.payload = .other kind →
    kind ∉ ["", "hello", "bye", "room", "message", "control"]
  proper : ∀ b ∈ m.payload.blobs, b.Proper

/-- The payload of a request is found in its frame. -/
theorem Request.payload_frame {m : Request} (h : m.Sendable) :
    m.frame.payload = .ok m.payload := by
  rw [Frame.payload_eq_ok_iff]
  obtain ⟨id, payload⟩ := m
  cases payload with
  | hello a => exact .hello a rfl rfl
  | bye b => exact .bye rfl
  | room r => exact .room r rfl rfl
  | message a => exact .message a rfl rfl
  | control a => exact .control a rfl rfl
  | other kind => exact .other (h.other kind rfl)

theorem Request.requestId_frame {m : Request} (h : m.id ≠ some "") :
    m.frame.requestId = m.id := by
  have hid : m.frame.id = m.id := by
    obtain ⟨id, payload⟩ := m
    cases payload <;> rfl
  rw [Frame.requestId, hid, filter_eq_self h]

theorem Request.ofFrame_frame {m : Request} (h : m.Sendable) :
    Request.ofFrame m.frame = .ok m := by
  have hpayload : m.frame.checkedPayload = .ok m.payload := by
    simp only [Frame.checkedPayload, payload_frame h, h.valid, bind, Except.bind]
  rw [Request.ofFrame, hpayload, requestId_frame h.id_ne]

theorem Request.Sendable.restored {m : Request} (h : m.Sendable) :
    Request.ofText m.toText = .ok m := by
  have hframe : Frame.record.codec.Restores deepest m.frame :=
    Frame.restores (by rw [blobs_frame]; exact h.proper)
  rw [Request.ofText, Request.toText, hframe.ofText]
  exact ofFrame_frame h

/-- A request that has been read could have been sent. -/
theorem sendable_of_ofText {text : String} {m : Request} (h : Request.ofText text = .ok m) :
    m.Sendable := by
  unfold Request.ofText at h
  split at h
  · next f hread =>
    unfold Request.ofFrame at h
    split at h
    · next p hchecked =>
      cases h
      obtain ⟨q, hpayload, hcheck⟩ := bind_eq_ok.mp hchecked
      obtain ⟨⟨⟩, hvalid, hq⟩ := bind_eq_ok.mp hcheck
      cases hq
      have hholds : f.Holds p := Frame.payload_eq_ok_iff.mp hpayload
      have hother (kind : String) (hp : p = .other kind) :
          kind ∉ ["", "hello", "bye", "room", "message", "control"] := by
        cases hholds with
        | other hkind => cases hp; exact hkind
        | _ => cases hp
      exact ⟨hvalid, filter_ne_empty f.id, hother,
        fun b hb => Frame.proper_of_reads (reads_of_ofText hread) b (hholds.blobs_subset b hb)⟩
    · cases h
  · cases h

/-- Whatever request is read, and whatever request a client may send, its text is read as the
    request. -/
theorem request_ofText_toText :
    (∀ text m, Request.ofText text = .ok m → Request.ofText m.toText = .ok m) ∧
      ∀ m : Request, m.Sendable → Request.ofText m.toText = .ok m :=
  ⟨fun _ _ h => (sendable_of_ofText h).restored, fun _ h => h.restored⟩

/-- A message as a client may send it, with blanks between its pieces and inside its data. -/
def spacedText : String :=
  "\x7b \"message\": \x7b\"data\": [1, null] , \"recipient\": \x7b\"type\": \"room\"\x7d\x7d,\n"
    ++ " \"id\": \"\", \"type\": \"message\"\x7d "

/-- The request in it: the blanks inside the data are kept. -/
def spacedRequest : Request := ⟨none, .message ⟨⟨"room", "", ""⟩, some ⟨"[1, null]"⟩⟩⟩

/-- A control message to a session, with a quote and a line feed in its id. -/
def builtRequest : Request := ⟨some "\"\n", .control ⟨⟨"session", "s", ""⟩, some ⟨"\x7b\x7d"⟩⟩⟩

theorem request_ofText_toText_samples :
    (Request.ofText spacedText = .ok spacedRequest ∧
      Request.ofText spacedRequest.toText = .ok spacedRequest) ∧
    builtRequest.Sendable ∧ Request.ofText builtRequest.toText = .ok builtRequest := by
  have hread : Request.ofText spacedText = .ok spacedRequest := by rfl
  have hsendable : builtRequest.Sendable := by
    refine ⟨rfl, by decide, nofun, fun b hb => ?_⟩
    cases List.mem_singleton.mp hb
    exact ⟨by rfl, by decide⟩
  exact ⟨⟨hread, request_ofText_toText.1 _ _ hread⟩, hsendable, request_ofText_toText.2 _ hsendable⟩

end Switchboard.Inbound
