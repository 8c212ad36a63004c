import Mathlib
import Switchboard.Outbound.Frame
import Switchboard.Proofs.Json.Records
import Switchboard.Proofs.Json.Values
/-
  Messages of the server come back as they were sent, with the JSON they carry. A frame is read as
  it is written if what it carries is kept as JSON (`Embedded.Kept`), without rounded numbers and
  not nested too deep (`Embedded.Plain`), and reads as what it is (`Embedded.Unambiguous`). What has
  been read is kept as JSON by itself, so only the other two are asked of a message that has been
  read (`message_ofText_toText`).
-/
namespace Switchboard.Outbound

open Switchboard.Json

/-! ## Embedded JSON -/

/-- JSON that a message carries: a blob, the details of a problem, or an object of a room event. -/
inductive Embedded
  | blob (b : Raw)
  | details (v : Value)
  | object (ms : Object)

/-- JSON as a message keeps it: a blob is a JSON text other than `null`, and numbers and names of
    the other values are in their place. -/
def Embedded.Kept : Embedded → Prop
  | .blob b => b.Proper
  | .details v => v.Stored
  | .object ms => (Value.object ms).Stored

/-- JSON in which values hold no rounded number and nest at most 100 deep. -/
def Embedded.Plain : Embedded → Prop
  | .blob _ => True
  | .details v => v.Plain 100
  | .object ms => (Value.object ms).Plain 100

/-- JSON whose text says what it is: details are not `null`, which is read as no details, and no
    object whose kind is not fixed is taken for an enclosed value. -/
def Embedded.Unambiguous : Embedded → Prop
  | .blob _ => True
  | .details v => v ≠ .null ∧ v.Unreserved
  | .object ms => ∀ m ∈ ms, m.2.Unreserved

/-- What comes back from its text. -/
def Embedded.Fit (e : Embedded) : Prop := e.Kept ∧ e.Plain ∧ e.Unambiguous

def Problem.embedded (p : Problem) : List Embedded := p.details.toList.map .details

def Room.embedded (r : Room) : List Embedded := r.properties.toList.map .blob

def Delivery.embedded (d : Delivery) : List Embedded := d.data.toList.map .blob

def SessionEntry.embedded (e : SessionEntry) : List Embedded := e.user.toList.map .blob

def RoomEvent.embedded (e : RoomEvent) : List Embedded :=
  (e.properties.toList ++ e.inCall.toList).map .blob ++ (e.changed ++ e.users).map .object

def RoomMessage.embedded (m : RoomMessage) : List Embedded := m.data.toList.map .blob

def Event.embedded (e : Event) : List Embedded :=
  (e.join ++ e.change).flatMap SessionEntry.embedded ++
    (e.invite.toList ++ e.disinvite.toList ++ e.update.toList).flatMap RoomEvent.embedded ++
    e.message.toList.flatMap RoomMessage.embedded

/-- The JSON that a payload carries. -/
def Payload.embedded : Payload → List Embedded
  | .problem p => p.embedded
  | .room r => r.embedded
  | .message d | .control d => d.embedded
  | .event e => e.embedded
  | .hello _ | .bye _ => []

/-- The JSON in all slots of a frame. -/
def Frame.embedded (f : Frame) : List Embedded :=
  f.problem.toList.flatMap Problem.embedded ++ f.room.toList.flatMap Room.embedded ++
    (f.message.toList ++ f.control.toList).flatMap Delivery.embedded ++
    f.event.toList.flatMap Event.embedded

theorem Message.embedded_frame (m : Message) : m.frame.embedded = m.payload.embedded := by
  obtain ⟨id, payload⟩ := m
  cases payload <;> simp [frame, Frame.bare, Frame.embedded, Payload.embedded]

/-! ## From records to texts and back -/

section

variable {d : Nat}

/-- The blobs of an optional slot that carries nothing unfit are JSON texts. -/
theorem proper_of_fit {o : Option Raw} (h : ∀ e ∈ o.toList.map .blob, Embedded.Fit e) :
    ∀ b ∈ o, b.Proper :=
  fun _ hb => (h _ (List.mem_map_of_mem (Option.mem_toList.mpr hb))).1

theorem ServerInfo.restores (s : ServerInfo) : ServerInfo.record.codec.Restores (d + 2) s :=
  Record.restores (by decide) rfl ⟨restores_text _ _, Field.restores_texts _, trivial⟩

theorem Hello.restores (h : Hello) : Hello.record.codec.Restores (d + 3) h :=
  Record.restores (by decide) rfl
    ⟨restores_text _ _, restores_text _ _, restores_text _ _, restores_text _ _,
      Field.restores_optionalRecord fun s _ => s.restores, trivial⟩

theorem Bye.restores (b : Bye) : Bye.record.codec.Restores (d + 1) b :=
  Record.restores (by decide) rfl ⟨restores_text _ _, trivial⟩

theorem Room.restores {r : Room} (h : ∀ e ∈ r.embedded, e.Fit) :
    Room.record.codec.Restores (d + 1) r :=
  Record.restores (by decide) rfl
    ⟨restores_text _ _, Field.restores_optionalRaw (proper_of_fit h), trivial⟩

theorem Sender.restores (s : Sender) : Sender.record.codec.Restores (d + 1) s :=
  Record.restores (by decide) rfl
    ⟨restores_text _ _, Field.restores_textOrEmpty _, Field.restores_textOrEmpty _, trivial⟩

theorem Delivery.restores {m : Delivery} (name : String) (h : ∀ e ∈ m.embedded, e.Fit) :
    (Delivery.record name).codec.Restores (d + 2) m :=
  Record.restores (show ["sender", "data"].Nodup by decide) rfl
    ⟨Field.restores_optionalRecord fun s _ => s.restores,
      Field.restores_nullableRaw (proper_of_fit h), trivial⟩

theorem Problem.restores {p : Problem} (h : ∀ e ∈ p.embedded, e.Fit) :
    Problem.record.codec.Restores (d + 101) p := by
  refine Record.restores (by decide) rfl
    ⟨restores_text _ _, restores_text _ _, Field.restores_optional fun v hv => ?_, trivial⟩
  obtain ⟨hkept, hplain, hne, hfree⟩ := h _ (List.mem_map_of_mem (Option.mem_toList.mpr hv))
  exact ⟨Value.Plain.restores hplain hkept hfree (Nat.le_add_left 100 d),
    Value.Plain.opens hplain (.inr ⟨rfl, hne⟩)⟩

theorem SessionEntry.restores {e : SessionEntry} (h : ∀ x ∈ e.embedded, x.Fit) :
    SessionEntry.record.codec.Restores (d + 1) e :=
  Record.restores (by decide) rfl
    ⟨restores_text _ _, restores_text _ _, Field.restores_optionalRaw (proper_of_fit h), trivial⟩

theorem RoomMessage.restores {m : RoomMessage} (h : ∀ e ∈ m.embedded, e.Fit) :
    RoomMessage.record.codec.Restores (d + 1) m :=
  Record.restores (by decide) rfl
    ⟨restores_text _ _, Field.restores_optionalRaw (proper_of_fit h), trivial⟩

theorem Embedded.Fit.restores_object {ms : Object} (h : (Embedded.object ms).Fit) :
    Codec.object.Restores (d + 100) ms ∧ Opens ']' (Codec.object.write ms) := by
  obtain ⟨hkept, hplain, hfree⟩ := h
  exact ⟨Value.Plain.restores_object hplain hkept hfree (Nat.le_add_left 100 d),
    _, _, rfl, rfl, by decide⟩

theorem RoomEvent.restores {e : RoomEvent} (h : ∀ x ∈ e.embedded, x.Fit) :
    RoomEvent.record.codec.Restores (d + 102) e := by
  simp only [RoomEvent.embedded, List.map_append, List.mem_append, or_imp, forall_and] at h
  obtain ⟨⟨hproperties, hinCall⟩, hchanged, husers⟩ := h
  exact Record.restores (by decide) rfl
    ⟨restores_text _ _, Field.restores_optionalRaw (proper_of_fit hproperties),
      Field.restores_optionalRaw (proper_of_fit hinCall),
      Field.restores_listOrEmpty fun _ hms => (hchanged _ (List.mem_map_of_mem hms)).restores_object,
      Field.restores_listOrEmpty fun _ hms => (husers _ (List.mem_map_of_mem hms)).restores_object,
      trivial⟩

theorem Event.restores {e : Event} (h : ∀ x ∈ e.embedded, x.Fit) :
    Event.record.codec.Restores (d + 103) e := by
  simp only [Event.embedded, List.flatMap_append, List.mem_append, List.mem_flatMap,
    Option.mem_toList] at h
  exact Record.restores (by decide) rfl
    ⟨restores_text _ _, restores_text _ _,
      Field.restores_records fun s hs => SessionEntry.restores fun x hx =>
        h x (.inl (.inl (.inl ⟨s, hs, hx⟩))),
      Field.restores_texts _,
      Field.restores_records fun s hs => SessionEntry.restores fun x hx =>
        h x (.inl (.inl (.inr ⟨s, hs, hx⟩))),
      Field.restores_optionalRecord fun r hr => RoomEvent.restores fun x hx =>
        h x (.inl (.inr (.inl (.inl ⟨r, hr, hx⟩)))),
      Field.restores_optionalRecord fun r hr => RoomEvent.restores fun x hx =>
        h x (.inl (.inr (.inl (.inr ⟨r, hr, hx⟩)))),
      Field.restores_optionalRecord fun r hr => RoomEvent.restores fun x hx =>
        h x (.inl (.inr (.inr ⟨r, hr, hx⟩))),
      Field.restores_optionalRecord fun m hm => RoomMessage.restores fun x hx =>
        h x (.inr ⟨m, hm, hx⟩),
      trivial⟩

theorem Frame.restores {f : Frame} (h : ∀ x ∈ f.embedded, x.Fit) :
    Frame.record.codec.Restores (d + 104) f := by
  simp only [Frame.embedded, List.flatMap_append, List.mem_append, List.mem_flatMap,
    Option.mem_toList] at h
  exact Record.restores (by decide) rfl
    ⟨Field.restores_optionalText _, restores_text _ _,
      Field.restores_optionalRecord fun p hp => Problem.restores fun x hx =>
        h x (.inl (.inl (.inl ⟨p, hp, hx⟩))),
      Field.restores_optionalRecord fun o _ => o.restores,
      Field.restores_optionalRecord fun b _ => b.restores,
      Field.restores_optionalRecord fun r hr => Room.restores fun x hx =>
        h x (.inl (.inl (.inr ⟨r, hr, hx⟩))),
      Field.restores_optionalRecord fun m hm => Delivery.restores _ fun x hx =>
        h x (.inl (.inr (.inl ⟨m, hm, hx⟩))),
      Field.restores_optionalRecord fun m hm => Delivery.restores _ fun x hx =>
        h x (.inl (.inr (.inr ⟨m, hm, hx⟩))),
      Field.restores_optionalRecord fun e he => Event.restores fun x hx =>
        h x (.inr ⟨e, he, hx⟩),
      trivial⟩

end

/-! ## From texts to records -/

/-- A slot of blobs that are JSON texts carries nothing else. -/
theorem kept_of_proper {o : Option Raw} (h : ∀ b ∈ o, b.Proper) :
    ∀ e ∈ o.toList.map .blob, Embedded.Kept e := by
  rw [List.forall_mem_map]
  exact fun b hb => h b (Option.mem_toList.mp hb)

theorem Room.kept_of_reads {r : Room} (h : Room.record.codec.Reads r) :
    ∀ e ∈ r.embedded, e.Kept := by
  obtain ⟨⟨roomId, properties, ⟨⟩⟩, rfl, -, hproperties, -⟩ := Record.reads h
  exact kept_of_proper (Field.Reads.proper (.inl hproperties))

theorem Delivery.kept_of_reads {name : String} {m : Delivery}
    (h : (Delivery.record name).codec.Reads m) : ∀ e ∈ m.embedded, e.Kept := by
  obtain ⟨⟨sender, data, ⟨⟩⟩, rfl, -, hdata, -⟩ := Record.reads h
  exact kept_of_proper (Field.Reads.proper (.inr hdata))

theorem SessionEntry.kept_of_reads {e : SessionEntry} (h : SessionEntry.record.codec.Reads e) :
    ∀ x ∈ e.embedded, x.Kept := by
  obtain ⟨⟨sessionId, userId, user, ⟨⟩⟩, rfl, -, -, huser, -⟩ := Record.reads h
  exact kept_of_proper (Field.Reads.proper (.inl huser))

theorem RoomMessage.kept_of_reads {m : RoomMessage} (h : RoomMessage.record.codec.Reads m) :
    ∀ e ∈ m.embedded, e.Kept := by
  obtain ⟨⟨roomId, data, ⟨⟩⟩, rfl, -, hdata, -⟩ := Record.reads h
  exact kept_of_proper (Field.Reads.proper (.inl hdata))

theorem Problem.kept_of_reads {p : Problem} (h : Problem.record.codec.Reads p) :
    ∀ e ∈ p.embedded, e.Kept := by
  obtain ⟨⟨code, message, details, ⟨⟩⟩, rfl, -, -, hdetails, -⟩ := Record.reads h
  rw [Problem.embedded, List.forall_mem_map]
  exact fun v hv => stored_of_reads (hdetails.of_optional_some v (Option.mem_toList.mp hv))

theorem RoomEvent.kept_of_reads {e : RoomEvent} (h : RoomEvent.record.codec.Reads e) :
    ∀ x ∈ e.embedded, x.Kept := by
  obtain ⟨⟨roomId, properties, inCall, changed, users, ⟨⟩⟩, rfl, -, hproperties, hinCall, hchanged,
    husers, -⟩ := Record.reads h
  intro x hx
  rw [RoomEvent.embedded, List.map_append, List.map_append, List.mem_append, List.mem_append,
    List.mem_append] at hx
  rcases hx with (hx | hx) | (hx | hx)
  · exact kept_of_proper (Field.Reads.proper (.inl hproperties)) x hx
  · exact kept_of_proper (Field.Reads.proper (.inl hinCall)) x hx
  · obtain ⟨ms, hms, rfl⟩ := List.mem_map.mp hx
    exact stored_of_reads_object (hchanged.of_listOrEmpty ms hms)
  · obtain ⟨ms, hms, rfl⟩ := List.mem_map.mp hx
    exact stored_of_reads_object (husers.of_listOrEmpty ms hms)

theorem Event.kept_of_reads {e : Event} (h : Event.record.codec.Reads e) :
    ∀ x ∈ e.embedded, x.Kept := by
  obtain ⟨⟨target, kind, join, leave, change, invite, disinvite, update, message, ⟨⟩⟩, rfl, -, -,
    hjoin, -, hchange, hinvite, hdisinvite, hupdate, hmessage, -⟩ := Record.reads h
  intro x hx
  simp only [Event.embedded, List.flatMap_append, List.mem_append, List.mem_flatMap,
    Option.mem_toList] at hx
  rcases hx with ((⟨s, hs, hx⟩ | ⟨s, hs, hx⟩) | ((⟨r, hr, hx⟩ | ⟨r, hr, hx⟩) | ⟨r, hr, hx⟩)) |
    ⟨m, hm, hx⟩
  · exact SessionEntry.kept_of_reads (hjoin.of_listOrEmpty s hs) x hx
  · exact SessionEntry.kept_of_reads (hchange.of_listOrEmpty s hs) x hx
  · exact RoomEvent.kept_of_reads (hinvite.of_optional_some r hr) x hx
  · exact RoomEvent.kept_of_reads (hdisinvite.of_optional_some r hr) x hx
  · exact RoomEvent.kept_of_reads (hupdate.of_optional_some r hr) x hx
  · exact RoomMessage.kept_of_reads (hmessage.of_optional_some m hm) x hx

theorem Frame.kept_of_reads {f : Frame} (h : Frame.record.codec.Reads f) :
    ∀ x ∈ f.embedded, x.Kept := by
  obtain ⟨⟨id, kind, problem, hello, bye, room, message, control, event, ⟨⟩⟩, rfl, -, -, hproblem,
    -, -, hroom, hmessage, hcontrol, hevent, -⟩ := Record.reads h
  intro x hx
  simp only [Frame.embedded, List.flatMap_append, List.mem_append, List.mem_flatMap,
    Option.mem_toList] at hx
  rcases hx with ((⟨p, hp, hx⟩ | ⟨r, hr, hx⟩) | (⟨m, hm, hx⟩ | ⟨m, hm, hx⟩)) | ⟨e, he, hx⟩
  · exact Problem.kept_of_reads (hproblem.of_optional_some p hp) x hx
  · exact Room.kept_of_reads (hroom.of_optional_some r hr) x hx
  · exact Delivery.kept_of_reads (hmessage.of_optional_some m hm) x hx
  · exact Delivery.kept_of_reads (hcontrol.of_optional_some m hm) x hx
  · exact Event.kept_of_reads (hevent.of_optional_some e he) x hx

/-! ## Messages -/

/-- The values in a payload hold no rounded number and are nested at most 100 deep. -/
def Payload.Plain (p : Payload) : Prop := ∀ e ∈ p.embedded, e.Plain

/-- The JSON in a payload reads as what it is. -/
def Payload.Unambiguous (p : Payload) : Prop := ∀ e ∈ p.embedded, e.Unambiguous

/-- A message as the server may build it: its id is not empty, and the JSON in it is kept so. -/
structure Message.Sendable (m : Message) : Prop where
  id_ne : m.id ≠ some ""
  kept : ∀ e ∈ m.payload.embedded, e.Kept

theorem Message.ofFrame_frame {m : Message} (h : m.id ≠ some "") :
    Message.ofFrame m.frame = .ok m := by
  have hid := filter_eq_self h
  obtain ⟨id, payload⟩ := m
  have hframe : Message.ofFrame (Message.frame ⟨id, payload⟩) =
      .ok ⟨id.filter (· ≠ ""), payload⟩ := by
    cases payload <;> rfl
  rw [hframe, hid]

theorem Message.Sendable.restored {m : Message} (h : m.Sendable) (hplain : m.payload.Plain)
    (hclear : m.payload.Unambiguous) : Message.ofText m.toText = .ok m := by
  have hframe : Frame.record.codec.Restores deepest m.frame := by
    refine Frame.restores (d := 23) fun e he => ?_
    rw [Message.embedded_frame] at he
    exact ⟨h.kept e he, hplain e he, hclear e he⟩
  have hmessage := Message.ofFrame_frame h.id_ne
  simp only [Message.ofText, Message.toText, hframe.atStart, hmessage, atEnd, skipBlanks,
    List.dropWhile_nil, bind, Except.bind]

/-- The JSON in the payload of a frame stands in its slots. -/
theorem Frame.of_payload {f : Frame} {p : Payload} (h : f.payload = .ok p) :
    ∀ e ∈ p.embedded, e ∈ f.embedded := by
  intro e he
  simp only [Frame.embedded, List.flatMap_append, List.mem_append, List.mem_flatMap,
    Option.mem_toList]
  unfold Frame.payload at h
  split at h
  · obtain ⟨a, hslot, h⟩ := bind_eq_ok.mp h
    cases h
    exact .inl (.inl (.inl ⟨a, filled_eq_ok.mp hslot, he⟩))
  split at h
  · obtain ⟨a, -, h⟩ := bind_eq_ok.mp h
    cases h
    cases he
  split at h
  · cases h
    cases he
  split at h
  · obtain ⟨a, hslot, h⟩ := bind_eq_ok.mp h
    cases h
    exact .inl (.inl (.inr ⟨a, filled_eq_ok.mp hslot, he⟩))
  split at h
  · obtain ⟨a, hslot, h⟩ := bind_eq_ok.mp h
    cases h
    exact .inl (.inr (.inl ⟨a, filled_eq_ok.mp hslot, he⟩))
  split at h
  · obtain ⟨a, hslot, h⟩ := bind_eq_ok.mp h
    cases h
    exact .inl (.inr (.inr ⟨a, filled_eq_ok.mp hslot, he⟩))
  split at h
  · obtain ⟨a, hslot, h⟩ := bind_eq_ok.mp h
    cases h
    exact .inr ⟨a, filled_eq_ok.mp hslot, he⟩
  · cases h

/-- A message that has been read could have been built. -/
theorem sendable_of_ofText {text : String} {m : Message} (h : Message.ofText text = .ok m) :
    m.Sendable := by
  obtain ⟨⟨f, rest⟩, hread, h⟩ := bind_eq_ok.mp h
  obtain ⟨m', hframe, h⟩ := bind_eq_ok.mp h
  obtain ⟨_, -, h⟩ := bind_eq_ok.mp h
  obtain ⟨p, hpayload, hm'⟩ := bind_eq_ok.mp hframe
  cases h
  cases hm'
  exact ⟨filter_ne_empty f.id, fun e he =>
    Frame.kept_of_reads (reads_of_atStart hread) e (Frame.of_payload hpayload e he)⟩

/-- Whatever message is read, and whatever message the server may build, its text is read as the
    same message, of which everything that is asked has the same answer. It is assumed that the
    values in it hold no rounded number, are nested at most 100 deep, and read as what they are. A
    message that has been read never has an empty id. -/
theorem message_ofText_toText :
    (∀ text m, Message.ofText text = .ok m → m.id ≠ some "" ∧
      (m.payload.Plain → m.payload.Unambiguous → Message.ofText m.toText = .ok m)) ∧
    ∀ m : Message, m.Sendable → m.payload.Plain → m.payload.Unambiguous →
      Message.ofText m.toText = .ok m :=
  ⟨fun _ _ h => ⟨(sendable_of_ofText h).id_ne, (sendable_of_ofText h).restored⟩,
    fun _ h => h.restored⟩

/-- A problem as it may arrive, with an empty id and a list of details. -/
def problemText : String :=
  "\x7b\"id\": \"\", \"type\": \"error\", \"error\": "
    ++ "\x7b\"message\": \"m\", \"code\": \"c\", \"details\": [null]\x7d\x7d"

/-- The message in it. -/
def problemMessage : Message := ⟨none, .problem ⟨"c", "m", some (.list [.null])⟩⟩

/-- An event that tells a change in a room. -/
def changeMessage : Message :=
  .event ⟨"room", "update", [], [], [], none, none,
    some ⟨"r", none, some ⟨"7"⟩, [[("a", .flag true)]], []⟩, none⟩

theorem message_ofText_toText_samples :
    (Message.ofText problemText = .ok problemMessage ∧
      problemMessage.payload.Plain ∧ problemMessage.payload.Unambiguous ∧
      Message.ofText problemMessage.toText = .ok problemMessage) ∧
    changeMessage.Sendable ∧ changeMessage.payload.Plain ∧ changeMessage.payload.Unambiguous ∧
      Message.ofText changeMessage.toText = .ok changeMessage := by
  have hread : Message.ofText problemText = .ok problemMessage := by decide +kernel
  have hplain : problemMessage.payload.Plain := by
    intro e he
    cases List.mem_singleton.mp he
    exact .list fun v hv => List.mem_singleton.mp hv ▸ .null _
  have hclear : problemMessage.payload.Unambiguous := by
    intro e he
    cases List.mem_singleton.mp he
    exact ⟨nofun, .list fun v hv => List.mem_singleton.mp hv ▸ .null⟩
  have hparts : ∀ e ∈ changeMessage.payload.embedded,
      e = .blob ⟨"7"⟩ ∨ e = .object [("a", .flag true)] := by
    intro e he
    simpa [changeMessage, Message.event, Payload.embedded, Event.embedded, RoomEvent.embedded]
      using he
  have hkept : changeMessage.Sendable := by
    refine ⟨nofun, fun e he => ?_⟩
    rcases hparts e he with rfl | rfl
    · exact ⟨by rfl, by decide⟩
    · exact .object (List.pairwise_singleton _ _) fun m hm => List.mem_singleton.mp hm ▸ .flag true
  have hplain' : changeMessage.payload.Plain := by
    intro e he
    rcases hparts e he with rfl | rfl
    · trivial
    · exact .object fun m hm => List.mem_singleton.mp hm ▸ .flag _ true
  have hclear' : changeMessage.payload.Unambiguous := by
    intro e he
    rcases hparts e he with rfl | rfl
    · trivial
    · exact fun m hm => List.mem_singleton.mp hm ▸ .flag true
  exact ⟨⟨hread, hplain, hclear, (message_ofText_toText.1 _ _ hread).2 hplain hclear⟩,
    hkept, hplain', hclear', message_ofText_toText.2 _ hkept hplain' hclear'⟩

/-! ## Where the assumption is needed -/

/-- A problem whose details have the reserved name as their second, so they are an object. -/
def reservedText : String :=
  "\x7b\"type\":\"error\",\"error\":\x7b\"code\":\"c\",\"message\":\"m\",\"details\":"
    ++ "\x7b\"a\":1,\"$serde_json::private::RawValue\":\"2\"\x7d\x7d\x7d"

/-- The message in it. Names are kept in order, so the reserved one is the first that is written. -/
def reservedMessage : Message :=
  ⟨none, .problem ⟨"c", "m", some (.object [(Value.reservedName, .text "2"),
    ("a", .number (.whole 1))])⟩⟩

/-- A problem whose details enclose `null`. -/
def enclosedText : String :=
  "\x7b\"type\":\"error\",\"error\":\x7b\"code\":\"c\",\"message\":\"m\",\"details\":"
    ++ "\x7b\"$serde_json::private::RawValue\":\"null\"\x7d\x7d\x7d"

/-- The message in it: there are details, and they are `null`. -/
def enclosedMessage : Message := ⟨none, .problem ⟨"c", "m", some .null⟩⟩

/-- Texts that name the reserved name are read, but what they are read as does not come back: the
    one is refused when it is read again, the other loses its details. -/
theorem message_ofText_toText_reserved :
    (Message.ofText reservedText = .ok reservedMessage ∧ reservedMessage.payload.Plain ∧
      ∀ m, Message.ofText reservedMessage.toText ≠ .ok m) ∧
    (Message.ofText enclosedText = .ok enclosedMessage ∧ enclosedMessage.payload.Plain ∧
      Message.ofText enclosedMessage.toText ≠ .ok enclosedMessage) := by
  have hreserved : Message.ofText reservedText = .ok reservedMessage := by decide +kernel
  have henclosed : Message.ofText enclosedText = .ok enclosedMessage := by decide +kernel
  refine ⟨⟨hreserved, ?_, ?_⟩, henclosed, ?_, ?_⟩
  · intro e he
    cases List.mem_singleton.mp he
    refine .object fun m hm => ?_
    rcases List.mem_pair.mp hm with rfl | rfl
    · exact .text _ _
    · exact .whole _ _
  · intro m hm
    have hrefused : (Message.ofText reservedMessage.toText).toOption = none := by decide +kernel
    rw [hm] at hrefused
    cases hrefused
  · intro e he
    cases List.mem_singleton.mp he
    exact .null _
  · decide +kernel

end Switchboard.Outbound
