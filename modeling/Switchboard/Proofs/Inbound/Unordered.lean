import Switchboard.Proofs.Inbound.Slots
/-
  The order of the members of a frame does not matter, nor do members that the frame does not know,
  nor payloads that its `type` does not ask for (`answer_of_harmless`). A frame is made from its
  members alone (`Record.ofText_toOption`), and these may change places. A member more fills one
  slot or none (`Fields.takeAll_cons_fits`), and a request looks at no slot but the one that the
  type names (`Request.ofFrame_of_agreeBut`).
-/
namespace Switchboard.Inbound

open Switchboard.Json

/-! ## Members more or less -/

/-- The text is a payload of the kind whose slot has the name. -/
inductive FillsSlot : String → List Char → Prop
  | hello {v : List Char} {h : Hello}
      (read : Hello.record.codec.ofText (String.ofList v) = .ok h) : FillsSlot "hello" v
  | bye {v : List Char} {b : Bye}
      (read : Bye.record.codec.ofText (String.ofList v) = .ok b) : FillsSlot "bye" v
  | room {v : List Char} {r : Room}
      (read : Room.record.codec.ofText (String.ofList v) = .ok r) : FillsSlot "room" v
  | message {v : List Char} {m : Message}
      (read : Message.record.codec.ofText (String.ofList v) = .ok m) : FillsSlot "message" v
  | control {v : List Char} {m : Message}
      (read : Message.record.codec.ofText (String.ofList v) = .ok m) : FillsSlot "control" v

/-- A change of the members of a frame that should make no difference: they stand in another order,
    or one has come in that the frame does not know, or a payload that was not there and that its
    type does not ask for. -/
inductive Harmless (ms ms' : List (List Char × List Char)) : Prop
  | reordered (order : ms.Perm ms')
  | unknown {n v : List Char} {name : String} (order : ms'.Perm ((n, v) :: ms))
      (spells : Spells n name.toList)
      (unknown : name ∉ ["id", "type", "hello", "bye", "room", "message", "control"])
  | unasked {n v : List Char} {slot : String} (order : ms'.Perm ((n, v) :: ms))
      (spells : Spells n slot.toList) (fills : FillsSlot slot v)
      (absent : ∀ m ∈ ms, ¬Spells m.1 slot.toList) (unasked : ¬AsksFor ms slot)

/-- The same request, or the same violation under the same id, or no frame at all, for whatever
    reason. -/
inductive SameAnswer : Except Rejection Request → Except Rejection Request → Prop
  | request (m : Request) : SameAnswer (.ok m) (.ok m)
  | invalid (id : Option String) (v : Violation) :
      SameAnswer (.error (.invalid id v)) (.error (.invalid id v))
  | malformed (r r' : Refusal) : SameAnswer (.error (.malformed r)) (.error (.malformed r'))

theorem SameAnswer.refl (a : Except Rejection Request) : SameAnswer a a := by
  rcases a with (r | ⟨id, v⟩) | m
  · exact .malformed r r
  · exact .invalid id v
  · exact .request m

/-! ## From members to the answer -/

/-- What the members of a frame are answered, if they make a frame. -/
def answer? (ms : List (List Char × List Char)) : Option (Except Rejection Request) :=
  (Frame.record.ofMembers? (deepest - 1) ms).map Request.ofFrame

theorem sameAnswer_of_answer? {t t' : String} {ms ms' : List (List Char × List Char)}
    (h : ObjectText t.toList ms) (h' : ObjectText t'.toList ms')
    (hsame : answer? ms = answer? ms') :
    SameAnswer (Request.ofText t) (Request.ofText t') := by
  unfold answer? at hsame
  rw [← Record.ofText_toOption Frame.local_fields Frame.whole_fields h,
    ← Record.ofText_toOption Frame.local_fields Frame.whole_fields h'] at hsame
  unfold Request.ofText
  cases hread : Frame.record.codec.ofText t with
  | error r =>
    cases hread' : Frame.record.codec.ofText t' with
    | error r' => exact .malformed r r'
    | ok f' =>
      rw [hread, hread'] at hsame
      cases hsame
  | ok f =>
    cases hread' : Frame.record.codec.ofText t' with
    | error r' =>
      rw [hread, hread'] at hsame
      cases hsame
    | ok f' =>
      rw [hread, hread'] at hsame
      have hframe : Request.ofFrame f = Request.ofFrame f' := Option.some.inj hsame
      dsimp only
      rw [hframe]
      exact .refl _

/-! ## Frames from slots -/

/-- The frame that is made from slots. -/
def Frame.ofSlots : Slots Frame.record.types → Frame
  | (id, kind, hello, bye, room, message, control, ()) =>
    ⟨id.getD none, kind.getD "", hello.getD none, bye.getD none, room.getD none, message.getD none,
      control.getD none⟩

/-- No member of a frame has to be there. -/
theorem Frame.ofMembers?_eq (d : Nat) (ms : List (List Char × List Char)) :
    Frame.record.ofMembers? d ms =
      (Frame.record.fields.takeAll d ms Frame.record.fields.slots).map Frame.ofSlots := by
  have hfilled : ∀ slots, (Frame.record.fields.filled slots).toOption.map Frame.record.make =
      some (Frame.ofSlots slots) := by
    rintro ⟨id, kind, hello, bye, room, message, control, ⟨⟩⟩
    simp only [Frame.record]
    iterate 7 rw [Fields.filled_cons _ _ rfl]
    rfl
  rw [Record.ofMembers?]
  simp only [hfilled, Option.map_eq_bind, Function.comp_def]

/-- A payload depends on the kind and on the slot that it names. -/
theorem Frame.payload_congr {f g : Frame} (kind : f.kind = g.kind)
    (hello : f.kind = "hello" → f.hello = g.hello) (bye : f.kind = "bye" → f.bye = g.bye)
    (room : f.kind = "room" → f.room = g.room)
    (message : f.kind = "message" → f.message = g.message)
    (control : f.kind = "control" → f.control = g.control) : f.payload = g.payload := by
  unfold Frame.payload
  rw [← kind]
  split
  · rfl
  split
  · next h => rw [hello h]
  split
  · next h => rw [bye h]
  split
  · next h => rw [room h]
  split
  · next h => rw [message h]
  split
  · next h => rw [control h]
  · rfl

/-- A request looks at no slot but the one that the type names. -/
theorem Request.ofFrame_of_agreeBut {slot : String} {slots next : Slots Frame.record.types}
    (h : Frame.record.fields.AgreeBut slot slots next) (hid : "id" ≠ slot) (htype : "type" ≠ slot)
    (hkind : (Frame.ofSlots slots).kind ≠ slot) :
    Request.ofFrame (Frame.ofSlots slots) = Request.ofFrame (Frame.ofSlots next) := by
  obtain ⟨id, kind, hello, bye, room, message, control, ⟨⟩⟩ := slots
  obtain ⟨id', kind', hello', bye', room', message', control', ⟨⟩⟩ := next
  obtain ⟨hidSlot, hkindSlot, hhello, hbye, hroom, hmessage, hcontrol, -⟩ := h
  obtain rfl : id = id' := hidSlot hid
  obtain rfl : kind = kind' := hkindSlot htype
  have hasked : ∀ {name}, kind.getD "" = name → name ≠ slot := fun hname => hname ▸ hkind
  have hpayload : (Frame.ofSlots (id, kind, hello, bye, room, message, control, ())).payload =
      (Frame.ofSlots (id, kind, hello', bye', room', message', control', ())).payload :=
    Frame.payload_congr rfl
      (fun hk => congrArg (·.getD none) (hhello (hasked hk)))
      (fun hk => congrArg (·.getD none) (hbye (hasked hk)))
      (fun hk => congrArg (·.getD none) (hroom (hasked hk)))
      (fun hk => congrArg (·.getD none) (hmessage (hasked hk)))
      (fun hk => congrArg (·.getD none) (hcontrol (hasked hk)))
  unfold Request.ofFrame Frame.checkedPayload
  rw [hpayload]
  rfl

/-! ## A payload that is not asked for -/

theorem FillsSlot.fits {slot : String} {v : List Char} (h : FillsSlot slot v) (hv : ValueText v) :
    Frame.record.fields.Fits (deepest - 1) slot v := by
  cases h with
  | hello read => exact (exists_slot_iff Hello.whole Hello.shallow hv).mpr (.inr ⟨_, read⟩)
  | bye read => exact (exists_slot_iff Bye.whole Bye.shallow hv).mpr (.inr ⟨_, read⟩)
  | room read => exact (exists_slot_iff Room.whole Room.shallow hv).mpr (.inr ⟨_, read⟩)
  | message read => exact (exists_slot_iff Message.whole Message.shallow hv).mpr (.inr ⟨_, read⟩)
  | control read => exact (exists_slot_iff Message.whole Message.shallow hv).mpr (.inr ⟨_, read⟩)

theorem FillsSlot.ne {slot : String} {v : List Char} (h : FillsSlot slot v) :
    "id" ≠ slot ∧ "type" ≠ slot ∧ slot ≠ "" := by
  cases h <;> decide

/-- The kind of a frame is empty or has been asked for. -/
theorem asksFor_kind {ms : List (List Char × List Char)} (names : ∀ m ∈ ms, Letters m.1)
    (values : ∀ m ∈ ms, ValueText m.2) {d : Nat} {slots : Slots Frame.record.types}
    (h : Frame.record.fields.takeAll d ms Frame.record.fields.slots = some slots)
    (hkind : (Frame.ofSlots slots).kind ≠ "") : AsksFor ms (Frame.ofSlots slots).kind := by
  obtain ⟨-, htype, -⟩ := Fields.cameFrom_takeAll h
  obtain ⟨id, kind, hello, bye, room, message, control, ⟨⟩⟩ := slots
  cases kind with
  | none => exact absurd rfl hkind
  | some k =>
    obtain ⟨⟨n, v⟩, hm, hname, hvalue⟩ := htype k rfl
    obtain ⟨w, rfl, hspells⟩ := (text_valueOf?_eq_some_iff (values _ hm)).mp hvalue
    exact ⟨n, w, hm, (spelled?_eq_some_iff (names _ hm)).mp hname, hspells⟩

/-- A payload that was not there and is not asked for makes no difference. -/
theorem answer?_unasked {n v : List Char} {slot : String} {ms : List (List Char × List Char)}
    (names : ∀ m ∈ (n, v) :: ms, Letters m.1) (values : ∀ m ∈ (n, v) :: ms, ValueText m.2)
    (spells : Spells n slot.toList) (fills : FillsSlot slot v)
    (absent : ∀ m ∈ ms, ¬Spells m.1 slot.toList) (unasked : ¬AsksFor ms slot) :
    answer? ms = answer? ((n, v) :: ms) := by
  obtain ⟨hn, hms⟩ := List.forall_mem_cons.mp names
  obtain ⟨hv, hvs⟩ := List.forall_mem_cons.mp values
  unfold answer?
  rw [Frame.ofMembers?_eq, Frame.ofMembers?_eq]
  cases htake : Frame.record.fields.takeAll (deepest - 1) ms Frame.record.fields.slots with
  | none => rw [Fields.takeAll_cons_last, htake, Option.bind_none]
  | some slots =>
    have habsent : ∀ m ∈ ms, spelled? m.1 ≠ some slot := fun m hm hname =>
      absent m hm ((spelled?_eq_some_iff (hms m hm)).mp hname)
    obtain ⟨next, hnext, hagree⟩ := Fields.takeAll_cons_fits
      ((spelled?_eq_some_iff hn).mpr spells) (fills.fits hv) habsent htake
    obtain ⟨hid, htype, hempty⟩ := fills.ne
    have hkind : (Frame.ofSlots slots).kind ≠ slot := by
      rintro rfl
      exact unasked (asksFor_kind hms hvs htake hempty)
    have hsame := Request.ofFrame_of_agreeBut hagree hid htype hkind
    rw [hnext]
    exact congrArg some hsame

/-! ## The result -/

/-- **Members may come in any order and unknown ones may come in.** Whatever object a text holds: if
    another text holds the same members in another order, or with one more that is not known, or
    with a payload more that was not there and is not the one that the type names, then both are
    answered with the same request, or with the same violation under the same id, or neither is a
    frame. -/
theorem answer_of_harmless {t t' : String} {ms ms' : List (List Char × List Char)}
    (h : ObjectText t.toList ms) (h' : ObjectText t'.toList ms') (hchange : Harmless ms ms') :
    SameAnswer (Request.ofText t) (Request.ofText t') := by
  apply sameAnswer_of_answer? h h'
  have hperm : ∀ {xs ys}, List.Perm xs ys → answer? xs = answer? ys := fun hxs =>
    congrArg (Option.map Request.ofFrame) (Record.ofMembers?_perm hxs)
  cases hchange with
  | reordered order => exact hperm order
  | @unknown n v name order spells unknown =>
    have hn := h'.name (order.mem_iff.mpr List.mem_cons_self)
    rw [hperm order]
    exact congrArg (Option.map Request.ofFrame)
      (Record.ofMembers?_unknown (r := Frame.record) ((spelled?_eq_some_iff hn).mpr spells) unknown
        ms).symm
  | @unasked n v slot order spells fills absent unasked =>
    rw [hperm order]
    exact answer?_unasked (fun m hm => h'.name (order.mem_iff.mpr hm))
      (fun m hm => h'.value (order.mem_iff.mpr hm)) spells fills absent unasked

/-! ### A frame for a room -/

/-- The object with members. -/
def objectWith (ms : List MemberText) : String :=
  String.ofList ('\x7b' :: (joined (ms.map (·.all)) ++ ['\x7d']))

theorem objectText_objectWith {ms : List MemberText} (framed : ∀ m ∈ ms, m.Framed)
    (values : ∀ m ∈ ms, ValueText m.value.text) :
    ObjectText (objectWith ms).toList (ms.map (·.pair)) := by
  rw [objectWith, String.toList_ofList]
  exact .intro blanks_nil blanks_nil (.inl rfl) framed values

def roomMembers : List MemberText :=
  [.tight "type" "\"room\"", .tight "room" "\x7b\"roomid\":\"lobby\"\x7d", .tight "id" "\"7\""]

theorem framed_roomMembers : ∀ m ∈ roomMembers, m.Framed := by
  simp only [roomMembers, List.forall_mem_cons]
  exact ⟨framed_tight _ (by decide), framed_tight _ (by decide), framed_tight _ (by decide), nofun⟩

theorem values_roomMembers : ∀ m ∈ roomMembers, ValueText m.value.text := by
  have hlobby : ValueText "\x7b\"roomid\":\"lobby\"\x7d".toList :=
    @ValueText.object [.tight "roomid" "\"lobby\""] _ (.inl rfl)
      (List.forall_mem_cons.mpr ⟨framed_tight _ (by decide), nofun⟩)
      (List.forall_mem_cons.mpr ⟨.plain (s := "lobby".toList) (by decide), nofun⟩)
  simp only [roomMembers, List.forall_mem_cons]
  exact ⟨.plain (s := "room".toList) (by decide), hlobby, .plain (s := "7".toList) (by decide),
    nofun⟩

theorem answer_of_harmless_room :
    Request.ofText (objectWith roomMembers) = .ok ⟨some "7", .room ⟨"lobby", ""⟩⟩ ∧
      SameAnswer (Request.ofText (objectWith roomMembers))
        (Request.ofText (objectWith roomMembers.reverse)) ∧
      SameAnswer (Request.ofText (objectWith roomMembers))
        (Request.ofText (objectWith (.tight "trace" "null" :: roomMembers))) ∧
      SameAnswer (Request.ofText (objectWith roomMembers))
        (Request.ofText (objectWith (.tight "bye" "\x7b\x7d" :: roomMembers))) := by
  have hroom := objectText_objectWith framed_roomMembers values_roomMembers
  have hlonger : ∀ {name value}, name.toList.all isPlain = true → ValueText value.toList →
      ObjectText (objectWith (.tight name value :: roomMembers)).toList
        ((name.toList, value.toList) :: roomMembers.map (·.pair)) := fun {_ value} hname hvalue =>
    objectText_objectWith (List.forall_mem_cons.mpr ⟨framed_tight value hname, framed_roomMembers⟩)
      (List.forall_mem_cons.mpr ⟨hvalue, values_roomMembers⟩)
  have hreversed := objectText_objectWith
    (fun m hm => framed_roomMembers m (List.mem_reverse.mp hm))
    (fun m hm => values_roomMembers m (List.mem_reverse.mp hm))
  have hempty : ValueText "\x7b\x7d".toList := @ValueText.object [] [] (.inl rfl) nofun nofun
  have htrace : "trace".toList.all isPlain = true := by decide
  have hbye : "bye".toList.all isPlain = true := by decide
  have hother : ∀ {n : List Char} {t : String}, spelled? n ≠ some t → ¬Spells n t.toList :=
    fun hne hspells => hne ((spelled?_eq_some_iff hspells.letters).mpr hspells)
  have hothers : ∀ m ∈ roomMembers.tail.map (·.pair), ¬Spells m.1 "type".toList := by
    simp only [roomMembers, List.tail_cons, List.map_cons, List.map_nil, List.forall_mem_cons]
    exact ⟨hother (by decide), hother (by decide), nofun⟩
  refine ⟨by rfl, ?_, ?_, ?_⟩
  · exact answer_of_harmless hroom hreversed
      (.reordered (roomMembers.reverse_perm.symm.map (·.pair)))
  · exact answer_of_harmless hroom (hlonger htrace .null)
      (.unknown (.refl _) (spells_self htrace) (by decide))
  · refine answer_of_harmless hroom (hlonger hbye hempty)
      (.unasked (.refl _) (spells_self hbye) (.bye (b := ⟨⟩) (by rfl)) ?_ ?_)
    · simp only [roomMembers, List.map_cons, List.map_nil, List.forall_mem_cons]
      exact ⟨hother (by decide), hother (by decide), hother (by decide), nofun⟩
    · rintro ⟨n, w, hm, htype, hw⟩
      rcases List.mem_cons.mp hm with heq | hm
      · have hkind : w = "room".toList :=
          List.append_cancel_right (List.cons.inj (Prod.mk.inj heq).2).2
        exact hother (by decide) (hkind ▸ hw)
      · exact hothers _ hm htype

end Switchboard.Inbound
