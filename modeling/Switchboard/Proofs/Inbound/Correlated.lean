import Switchboard.Proofs.Inbound.Unordered
import Switchboard.Proofs.Outbound.Replies
/-
  Under which id a request is refused. A frame that breaks a rule is refused under its id, but a text
  that is no frame is refused under none, also where it holds an object from which the id could be
  told. So what has to be said is which objects are frames: those whose names all spell texts, in
  which no slot is filled twice and no value is of another kind than its slot (`FormsFrame`). That
  these are read and no others (`Frame.exists_ofText_iff`) is put together from what the slots hold
  in the end (`Fields.takeAll_eq_some_iff`) and from which texts fit each of them (`fits_iff`).
-/
namespace Switchboard.Inbound

open Switchboard.Json

/-! ## Objects that are frames -/

/-- The names of the slots of a frame. -/
def slotNames : List String := ["id", "type", "hello", "bye", "room", "message", "control"]

/-- The text is a value for the slot with the name: a string for the id and the type, a payload for
    the other slots, and `null` for each slot but the type. -/
inductive FitsSlot (slot : String) : List Char → Prop
  | text {w : List Char} {t : String} (textual : slot = "id" ∨ slot = "type")
      (spells : Spells w t.toList) : FitsSlot slot ('"' :: (w ++ ['"']))
  | null (optional : slot ≠ "type") : FitsSlot slot writeNull
  | payload {v : List Char} (fills : FillsSlot slot v) : FitsSlot slot v

/-- The members make a frame: every name spells a text, no slot is filled twice, and every value
    fits its slot. -/
structure FormsFrame (ms : List (List Char × List Char)) : Prop where
  named : WellNamed ms
  once : ∀ slot ∈ slotNames, AtMostOnce slot ms
  fits : ∀ slot ∈ slotNames, ∀ n v, (n, v) ∈ ms → Spells n slot.toList → FitsSlot slot v

/-! ## What fits a slot -/

theorem FitsSlot.of_payload {slot : String} {α : Type} {r : Record α} {v : List Char}
    (hv : ValueText v) (hwhole : r.codec.Whole) (hshallow : r.codec.Shallow 2)
    (hne : slot ≠ "type")
    (hfills : ∀ {a}, r.codec.ofText (String.ofList v) = .ok a → FillsSlot slot v)
    (hread : ∃ a, r.codec.optional.valueOf? (deepest - 1) v = some a) : FitsSlot slot v := by
  rcases (exists_slot_iff hwhole hshallow hv).mp hread with rfl | ⟨a, ha⟩
  · exact .null hne
  · exact .payload (hfills ha)

/-- The values that fit a slot are those that are read for it. -/
theorem fits_iff {slot : String} (hslot : slot ∈ slotNames) {v : List Char} (hv : ValueText v) :
    Frame.record.fields.Fits (deepest - 1) slot v ↔ FitsSlot slot v := by
  constructor
  · intro h
    simp only [slotNames, List.mem_cons, List.not_mem_nil, or_false] at hslot
    -- The id and the type hold strings; the slots of payloads differ in the record alone.
    rcases hslot with rfl | rfl | rfl | rfl | rfl | rfl | rfl
    · rcases (Codec.exists_optional_iff _ _ hv).mp h with rfl | ⟨t, ht⟩
      · exact .null (by decide)
      · obtain ⟨w, rfl, spells⟩ := (text_valueOf?_eq_some_iff hv).mp ht
        exact .text (.inl rfl) spells
    · obtain ⟨t, ht⟩ := h
      obtain ⟨w, rfl, spells⟩ := (text_valueOf?_eq_some_iff hv).mp ht
      exact .text (.inr rfl) spells
    · exact .of_payload hv Hello.whole Hello.shallow (by decide) .hello h
    · exact .of_payload hv Bye.whole Bye.shallow (by decide) .bye h
    · exact .of_payload hv Room.whole Room.shallow (by decide) .room h
    · exact .of_payload hv Message.whole Message.shallow (by decide) .message h
    · exact .of_payload hv Message.whole Message.shallow (by decide) .control h
  · intro h
    cases h with
    | @text w t textual spells =>
      have hread : Codec.text.valueOf? (deepest - 1) ('"' :: (w ++ ['"'])) = some t :=
        (text_valueOf?_eq_some_iff hv).mpr ⟨w, rfl, spells⟩
      rcases textual with rfl | rfl
      · exact (Codec.exists_optional_iff _ _ hv).mpr (.inr ⟨t, hread⟩)
      · exact ⟨t, hread⟩
    | null optional =>
      simp only [slotNames, List.mem_cons, List.not_mem_nil, or_false] at hslot
      rcases hslot with rfl | rfl | rfl | rfl | rfl | rfl | rfl
      case inr.inl => exact absurd rfl optional
      all_goals exact ⟨none, rfl⟩
    | payload fills => exact fills.fits hv

/-! ## What is read -/

section

variable {text : String} {ms : List (List Char × List Char)}

theorem Frame.ofText_eq_ok_iff (h : ObjectText text.toList ms) {f : Frame} :
    Frame.record.codec.ofText text = .ok f ↔
      ∃ slots, Frame.record.fields.takeAll (deepest - 1) ms Frame.record.fields.slots =
        some slots ∧ Frame.ofSlots slots = f := by
  rw [← toOption_eq_some_iff, Record.ofText_toOption local_fields whole_fields h,
    Frame.ofMembers?_eq, Option.map_eq_some_iff]

/-- What stands under the name of a slot fits it if all of it is read for it. -/
theorem forall_fits_iff (h : ObjectText text.toList ms) {slot : String} (hslot : slot ∈ slotNames) :
    (∀ v ∈ valuesOf slot ms, Frame.record.fields.Fits (deepest - 1) slot v) ↔
      ∀ n v, (n, v) ∈ ms → Spells n slot.toList → FitsSlot slot v := by
  constructor
  · intro hread n v hm hspells
    have hvalue : v ∈ valuesOf slot ms :=
      mem_valuesOf.mpr ⟨n, hm, (spelled?_eq_some_iff (h.name hm)).mpr hspells⟩
    exact (fits_iff hslot (h.value hm)).mp (hread v hvalue)
  · intro hfits v hv
    obtain ⟨n, hm, hname⟩ := mem_valuesOf.mp hv
    have hspells := (spelled?_eq_some_iff (h.name hm)).mp hname
    exact (fits_iff hslot (h.value hm)).mpr (hfits n v hm hspells)

/-- A text that holds an object is read as a frame exactly if its members make one. -/
theorem Frame.exists_ofText_iff (h : ObjectText text.toList ms) :
    (∃ f, Frame.record.codec.ofText text = .ok f) ↔ FormsFrame ms := by
  have hnames : Frame.record.fields.names.Nodup := by decide
  have hletters : ∀ m ∈ ms, Letters m.1 := fun m hm => h.name hm
  have hslots : (∃ f, Frame.record.codec.ofText text = .ok f) ↔
      WellNamed ms ∧ ∃ slots, Frame.record.fields.Get (deepest - 1) ms slots := by
    simp only [Frame.ofText_eq_ok_iff h, Fields.takeAll_eq_some_iff hnames, wellNamed_iff hletters]
    rw [exists_comm]
    simp only [exists_and_left, exists_eq', and_true, exists_and_left]
  rw [hslots, Fields.exists_get_iff hnames]
  constructor
  · rintro ⟨named, hget⟩
    exact ⟨named, fun slot hslot => (atMostOnce_iff hletters).mpr (hget slot hslot).1,
      fun slot hslot => (forall_fits_iff h hslot).mp (hget slot hslot).2⟩
  · rintro ⟨named, once, fits⟩
    exact ⟨named, fun slot hslot => ⟨(atMostOnce_iff hletters).mp (once slot hslot),
      (forall_fits_iff h hslot).mpr (fits slot hslot)⟩⟩

/-- The id of a frame is the string that the only member `id` has. -/
theorem Frame.id_of_only (h : ObjectText text.toList ms) {w : List Char} {i : String}
    (only : OnlyMember "id" ('"' :: (w ++ ['"'])) ms) (spells : Spells w i.toList) {f : Frame}
    (hread : Frame.record.codec.ofText text = .ok f) : f.id = some i := by
  obtain ⟨⟨id, slots⟩, htake, rfl⟩ := (Frame.ofText_eq_ok_iff h).mp hread
  obtain ⟨-, hid, -⟩ := (Fields.takeAll_eq_some_iff (by decide)).mp htake
  have hvalues := (onlyMember_iff fun m hm => h.name hm).mp only
  have htext : Codec.text.optional.valueOf? (deepest - 1) ('"' :: (w ++ ['"'])) =
      some (some i) := by
    rw [Codec.optional_valueOf? _ _ (only.value h), if_neg nofun,
      (text_valueOf?_eq_some_iff (only.value h)).mpr ⟨w, rfl, spells⟩]
    rfl
  cases id with
  | none => cases hvalues.symm.trans hid
  | some id =>
    obtain ⟨v, hv, hid⟩ := hid
    obtain rfl : v = '"' :: (w ++ ['"']) := List.singleton_inj.mp (hv.symm.trans hvalues)
    exact Option.some.inj (hid.symm.trans htext)

end

/-! ## The result -/

/-- **A request that is refused is refused under its id exactly if it is a frame.** Whatever object
    a text holds in which one member alone is `id`, a string that is not empty: if the text is
    refused, the reply has this id if the members make a frame, and none if they do not. -/
theorem reply_id_of_refused {text : String} {ms : List (List Char × List Char)} {w : List Char}
    {i : String} {e : Rejection} (h : ObjectText text.toList ms)
    (only : OnlyMember "id" ('"' :: (w ++ ['"'])) ms) (spells : Spells w i.toList) (hne : i ≠ "")
    (hrefused : Request.ofText text = .error e) :
    (e.reply.id = some i ↔ FormsFrame ms) ∧ (e.reply.id = none ↔ ¬FormsFrame ms) := by
  rw [← Frame.exists_ofText_iff h]
  rcases Request.ofText_eq_error_iff.mp hrefused with ⟨r, rfl, hread⟩ | ⟨f, v, hread, rfl, -⟩
  · have hno : ¬∃ f, Frame.record.codec.ofText text = .ok f := by
      rintro ⟨f, hf⟩
      cases hread.symm.trans hf
    exact ⟨iff_of_false nofun hno, iff_of_true rfl hno⟩
  · have hid : (Rejection.invalid f.requestId v).reply.id = some i := by
      change f.id.filter (· ≠ "") = some i
      rw [Frame.id_of_only h only spells hread, Option.filter_some_pos (by simpa using hne)]
    refine ⟨iff_of_true hid ⟨f, hread⟩, ?_⟩
    rw [hid]
    exact ⟨nofun, fun hno => absurd ⟨f, hread⟩ hno⟩

/-- A frame without the payload that its type needs. -/
def bareMembers : List MemberText := [.tight "id" "\"7\"", .tight "type" "\"room\""]

/-- A frame with a value in the place of the payload that is none. -/
def mistypedMembers : List MemberText := bareMembers ++ [.tight "room" "true"]

theorem framed_bareMembers : ∀ m ∈ bareMembers, m.Framed := by
  simp only [bareMembers, List.forall_mem_cons]
  exact ⟨framed_tight _ (by decide), framed_tight _ (by decide), nofun⟩

theorem values_bareMembers : ∀ m ∈ bareMembers, ValueText m.value.text := by
  simp only [bareMembers, List.forall_mem_cons]
  exact ⟨.plain (s := "7".toList) (by decide), .plain (s := "room".toList) (by decide), nofun⟩

theorem objectText_mistyped :
    ObjectText (objectWith mistypedMembers).toList (mistypedMembers.map (·.pair)) :=
  objectText_objectWith
    (List.forall_mem_append.mpr ⟨framed_bareMembers,
      List.forall_mem_singleton.mpr (framed_tight _ (by decide))⟩)
    (List.forall_mem_append.mpr ⟨values_bareMembers, List.forall_mem_singleton.mpr .yes⟩)

theorem only_id_mistyped :
    OnlyMember "id" ('"' :: ("7".toList ++ ['"'])) (mistypedMembers.map (·.pair)) :=
  (onlyMember_iff fun _ hm => objectText_mistyped.name hm).mpr (by decide)

theorem reply_id_of_refused_room :
    (∃ e, Request.ofText (objectWith bareMembers) = .error e ∧ e.reply.id = some "7" ∧
      FormsFrame (bareMembers.map (·.pair))) ∧
    ∃ e, Request.ofText (objectWith mistypedMembers) = .error e ∧ e.reply.id = none ∧
      ¬FormsFrame (mistypedMembers.map (·.pair)) := by
  have hbare := objectText_objectWith framed_bareMembers values_bareMembers
  have honly : OnlyMember "id" ('"' :: ("7".toList ++ ['"'])) (bareMembers.map (·.pair)) :=
    (onlyMember_iff fun m hm => hbare.name hm).mpr (by decide)
  have hseven : Spells "7".toList "7".toList := spells_self (by decide)
  have hinvalid : Request.ofText (objectWith bareMembers) =
      .error (.invalid (some "7") (.payloadMissing "room")) := by rfl
  have hmalformed : Request.ofText (objectWith mistypedMembers) =
      .error (.malformed
        ⟨.wrongKind (.flag true) (.record "RoomClientMessage"), some ⟨1, 35⟩⟩) := by rfl
  have hforms := reply_id_of_refused hbare honly hseven (by decide) hinvalid
  have hforms' := reply_id_of_refused objectText_mistyped only_id_mistyped hseven (by decide)
    hmalformed
  exact ⟨⟨_, hinvalid, rfl, hforms.1.mp rfl⟩, ⟨_, hmalformed, rfl, hforms'.2.mp rfl⟩⟩

/-- An object whose only member `id` is the string `7` is refused under no id. -/
theorem mistyped_reply_id :
    ObjectText (objectWith mistypedMembers).toList (mistypedMembers.map (·.pair)) ∧
      OnlyMember "id" ('"' :: ("7".toList ++ ['"'])) (mistypedMembers.map (·.pair)) ∧
      ∃ e, Request.ofText (objectWith mistypedMembers) = .error e ∧ e.reply.id ≠ some "7" :=
  ⟨objectText_mistyped, only_id_mistyped, _, rfl, nofun⟩

end Switchboard.Inbound
