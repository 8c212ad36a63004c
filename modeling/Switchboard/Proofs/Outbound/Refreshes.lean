import Switchboard.Outbound.Content
import Switchboard.Proofs.Json.Items
/-
  Which messages ask to refresh a chat. The data is meant to be an object in which `type` is `chat`
  and `chat` is an object in which `refresh` is `true` (`RefreshObject`), whatever other members
  there are. Records are also read from lists, and so the data may be a list, or the chat in it
  (`RefreshListed`). These are all the data that asks for it (`Content.ofText_eq_ok_iff`): each of
  the two records has one content that does, and `Record.ofText_eq_ok_iff` says from which objects
  and from which lists that is read. No data has both forms, since what one member alone has under
  a name does not depend on how the text is divided (`RefreshObject.not_listed`).
-/
namespace Switchboard.Outbound

open Switchboard.Json

/-! ## Forms -/

/-- An object in which one member `refresh` is `true`. -/
def ChatObject (v : List Char) : Prop :=
  ∃ ms, ObjectText v ms ∧ WellNamed ms ∧ OnlyMember "refresh" "true".toList ms

/-- A list of `true` alone. -/
def ChatList (v : List Char) : Prop := ListText v ["true".toList]

/-- The text holds an object in which one member `type` is the string `chat`, and one member `chat`
    has a value of a form. -/
def RefreshIn (chat : List Char → Prop) (text : String) : Prop :=
  ∃ ms w v, ObjectText text.toList ms ∧ WellNamed ms ∧
    OnlyMember "type" ('"' :: (w ++ ['"'])) ms ∧ Spells w "chat".toList ∧
    OnlyMember "chat" v ms ∧ chat v

/-- Data as it is meant to be: the chat is an object. -/
def RefreshObject : String → Prop := RefreshIn ChatObject

/-- The text holds an object as it is meant to be, but for the chat, which is a list; or it holds a
    list of the string `chat` and a chat of either form. -/
inductive RefreshListed (text : String) : Prop
  | chat (chat : RefreshIn ChatList text) : RefreshListed text
  | content {w v : List Char} (content : ListText text.toList ['"' :: (w ++ ['"']), v])
      (kind : Spells w "chat".toList) (chat : ChatObject v ∨ ChatList v) : RefreshListed text

/-- The message passes on data of a form. -/
def Message.Carries (m : Message) (form : String → Prop) : Prop :=
  ∃ sender data, m.payload = .message ⟨sender, some data⟩ ∧ form data.text

/-! ## Chats -/

theorem Chat.local_fields : Chat.record.fields.Local := ⟨local_flag, trivial⟩

theorem Chat.whole_fields : Chat.record.fields.Whole := ⟨whole_flag, trivial⟩

/-- An object says that the chat is to be refreshed if one member alone does. -/
theorem Chat.ofMembers?_eq_some_iff {d : Nat} {v : List Char} {ms : List (List Char × List Char)}
    (h : ObjectText v ms) :
    Chat.record.ofMembers? d ms = some ⟨true⟩ ↔
      WellNamed ms ∧ OnlyMember "refresh" "true".toList ms := by
  have hnames : Chat.record.fields.names.Nodup := by decide
  rw [wellNamed_iff fun m hm => h.name hm, Record.ofMembers?_eq_some_iff hnames]
  constructor
  · rintro ⟨⟨slot, ⟨⟩⟩, hwell, ⟨hslot, -⟩, hmake⟩
    refine ⟨hwell, ?_⟩
    cases slot with
    | none => cases hmake
    | some b =>
      cases hmake
      obtain ⟨v, hv, only, hread⟩ := (Field.gets_some_iff h).mp hslot
      rwa [(flag_valueOf?_eq_some_iff hv).mp hread] at only
  · rintro ⟨hwell, only⟩
    refine ⟨(some true, ()), hwell, ⟨?_, trivial⟩, rfl⟩
    exact (Field.gets_some_iff h).mpr ⟨_, .yes, only, rfl⟩

/-- A list says that the chat is to be refreshed if it says nothing else. -/
theorem Chat.ofItems?_eq_some_iff {d : Nat} {vs : List (List Char)}
    (values : ∀ v ∈ vs, ValueText v) :
    Chat.record.ofItems? d vs = some ⟨true⟩ ↔ vs = ["true".toList] := by
  constructor
  · intro h
    cases vs with
    | nil => cases h
    | cons v vs =>
      obtain ⟨⟨refresh, ⟨⟩⟩, hitems, hmake⟩ := Option.map_eq_some_iff.mp h
      cases hmake
      obtain ⟨hread, hrest⟩ := Fields.ofItems?_cons_eq_some_iff.mp hitems
      rw [Fields.ofItems?_nil_eq_some_iff.mp hrest,
        (flag_valueOf?_eq_some_iff (values v List.mem_cons_self)).mp hread]
      rfl
  · rintro rfl
    rfl

/-- What is read as a chat that is to be refreshed. -/
theorem Chat.valueOf?_eq_some_iff {d : Nat} (hd : 1 ≤ d) {v : List Char} (hv : ValueText v) :
    Chat.record.codec.valueOf? d v = some ⟨true⟩ ↔ ChatObject v ∨ ChatList v := by
  have hshallow : Chat.record.codec.Shallow 1 := Record.shallow ⟨shallow_flag 0, trivial⟩
  rw [Record.valueOf?_eq_some_iff local_fields whole_fields (by decide) hshallow hd (by decide) hv]
  refine or_congr (exists_congr fun ms => and_congr_right Chat.ofMembers?_eq_some_iff) ?_
  constructor
  · rintro ⟨vs, hvs, hitems⟩
    rw [Chat.ofItems?_eq_some_iff fun v hv => hvs.value hv] at hitems
    rwa [hitems] at hvs
  · intro hlist
    exact ⟨_, hlist, rfl⟩

/-! ## Content -/

theorem Content.local_fields : Content.record.fields.Local :=
  ⟨local_text, (Record.local Chat.local_fields).optional, trivial⟩

theorem Content.whole_fields : Content.record.fields.Whole :=
  ⟨whole_text, (Record.whole Chat.whole_fields (by decide)).optional, trivial⟩

/-- One content asks to refresh the chat. -/
theorem Content.refreshesChat_iff {c : Content} :
    c.refreshesChat = true ↔ c = ⟨"chat", some ⟨true⟩⟩ := by
  obtain ⟨kind, chat⟩ := c
  constructor
  · intro h
    obtain ⟨hkind, hchat⟩ := Bool.and_eq_true_iff.mp h
    cases chat with
    | none => cases hchat
    | some chat =>
      obtain ⟨refresh⟩ := chat
      obtain rfl : refresh = true := hchat
      obtain rfl : kind = "chat" := eq_of_beq hkind
      rfl
  · rintro ⟨⟩
    rfl

/-- What stands in the place of the chat. -/
theorem Content.chat_valueOf? {d : Nat} (hd : 1 ≤ d) {v : List Char} (hv : ValueText v) :
    Chat.record.codec.optional.valueOf? d v = some (some ⟨true⟩) ↔ ChatObject v ∨ ChatList v :=
  (Record.optional_valueOf?_eq_some_iff hv).trans (Chat.valueOf?_eq_some_iff hd hv)

/-- Neither of the two fields has the value that asks for it when it is absent. -/
theorem Content.filled_eq_some_iff {kind : Option String} {chat : Option (Option Chat)} :
    (Content.record.fields.filled (kind, chat, ())).toOption.map Content.record.make =
        some ⟨"chat", some ⟨true⟩⟩ ↔
      kind = some "chat" ∧ chat = some (some ⟨true⟩) := by
  have hfilled : (Content.record.fields.filled (kind, chat, ())).toOption.map
      Content.record.make = some ⟨kind.getD "", chat.getD none⟩ := by
    cases kind <;> cases chat <;> rfl
  constructor
  · intro h
    have hcontent := Option.some.inj (hfilled.symm.trans h)
    simpa [Option.getD_eq_iff] using hcontent
  · rintro ⟨rfl, rfl⟩
    rfl

theorem Content.ofMembers?_eq_some_iff {d : Nat} (hd : 1 ≤ d) {text : List Char}
    {ms : List (List Char × List Char)} (h : ObjectText text ms) :
    Content.record.ofMembers? d ms = some ⟨"chat", some ⟨true⟩⟩ ↔
      WellNamed ms ∧ ∃ w v, OnlyMember "type" ('"' :: (w ++ ['"'])) ms ∧ Spells w "chat".toList ∧
        OnlyMember "chat" v ms ∧ (ChatObject v ∨ ChatList v) := by
  have hnames : Content.record.fields.names.Nodup := by decide
  rw [wellNamed_iff fun m hm => h.name hm, Record.ofMembers?_eq_some_iff hnames]
  constructor
  · rintro ⟨⟨kind, chat, ⟨⟩⟩, hwell, ⟨hkind, hchat, -⟩, hmake⟩
    obtain ⟨rfl, rfl⟩ := Content.filled_eq_some_iff.mp hmake
    obtain ⟨u, hu, only, hread⟩ := (Field.gets_some_iff h).mp hkind
    obtain ⟨w, rfl, spells⟩ := (text_valueOf?_eq_some_iff hu).mp hread
    obtain ⟨v, hv, only', hread'⟩ := (Field.gets_some_iff h).mp hchat
    exact ⟨hwell, w, v, only, spells, only', (Content.chat_valueOf? hd hv).mp hread'⟩
  · rintro ⟨hwell, w, v, only, spells, only', hform⟩
    refine ⟨(some "chat", some (some ⟨true⟩), ()), hwell, ⟨?_, ?_, trivial⟩, rfl⟩
    · have hread := (text_valueOf?_eq_some_iff (d := d) (only.value h)).mpr ⟨w, rfl, spells⟩
      exact (Field.gets_some_iff h).mpr ⟨_, only.value h, only, hread⟩
    · have hread := (Content.chat_valueOf? hd (only'.value h)).mpr hform
      exact (Field.gets_some_iff h).mpr ⟨_, only'.value h, only', hread⟩

theorem Content.ofItems?_eq_some_iff {d : Nat} (hd : 1 ≤ d) {vs : List (List Char)}
    (values : ∀ v ∈ vs, ValueText v) :
    Content.record.ofItems? d vs = some ⟨"chat", some ⟨true⟩⟩ ↔
      ∃ w v, vs = ['"' :: (w ++ ['"']), v] ∧ Spells w "chat".toList ∧
        (ChatObject v ∨ ChatList v) := by
  constructor
  · intro h
    match vs, values, h with
    | [], _, h => exact absurd (congrArg (·.bind Content.chat) h) nofun
    | [u], _, h =>
      obtain ⟨⟨kind, chat, ⟨⟩⟩, hitems, hmake⟩ := Option.map_eq_some_iff.mp h
      cases hmake
      obtain ⟨-, hnone⟩ := Fields.ofItems?_cons_eq_some_iff.mp hitems
      cases hnone
    | u :: v :: vs, values, h =>
      obtain ⟨⟨kind, chat, ⟨⟩⟩, hitems, hmake⟩ := Option.map_eq_some_iff.mp h
      cases hmake
      obtain ⟨hu, hv⟩ := List.forall_mem_cons.mp values
      obtain ⟨hread, hitems⟩ := Fields.ofItems?_cons_eq_some_iff.mp hitems
      obtain ⟨hread', hrest⟩ := Fields.ofItems?_cons_eq_some_iff.mp hitems
      obtain ⟨w, rfl, spells⟩ := (text_valueOf?_eq_some_iff hu).mp hread
      rw [Fields.ofItems?_nil_eq_some_iff.mp hrest]
      have hform := (Content.chat_valueOf? hd (hv v List.mem_cons_self)).mp hread'
      exact ⟨w, v, rfl, spells, hform⟩
  · rintro ⟨w, v, rfl, spells, hform⟩
    obtain ⟨hu, hv⟩ := List.forall_mem_cons.mp values
    have hkind := (text_valueOf?_eq_some_iff (d := d) hu).mpr ⟨w, rfl, spells⟩
    have hchat := (Content.chat_valueOf? hd (hv v List.mem_cons_self)).mpr hform
    exact Option.map_eq_some_iff.mpr ⟨("chat", some ⟨true⟩, ()),
      Fields.ofItems?_cons_eq_some_iff.mpr
        ⟨hkind, Fields.ofItems?_cons_eq_some_iff.mpr ⟨hchat, rfl⟩⟩, rfl⟩

theorem refreshIn_or {P Q : List Char → Prop} {text : String} :
    RefreshIn (fun v => P v ∨ Q v) text ↔ RefreshIn P text ∨ RefreshIn Q text := by
  simp only [RefreshIn, and_or_left, exists_or]

theorem refreshListed_iff {text : String} :
    RefreshListed text ↔ RefreshIn ChatList text ∨
      ∃ w v, ListText text.toList ['"' :: (w ++ ['"']), v] ∧ Spells w "chat".toList ∧
        (ChatObject v ∨ ChatList v) := by
  constructor
  · rintro (hchat | ⟨hlist, hkind, hchat⟩)
    · exact .inl hchat
    · exact .inr ⟨_, _, hlist, hkind, hchat⟩
  · rintro (hchat | ⟨w, v, hlist, hkind, hchat⟩)
    · exact .chat hchat
    · exact .content hlist hkind hchat

/-- Data is read as the content that asks to refresh the chat exactly if it has one of the forms. -/
theorem Content.ofText_eq_ok_iff {text : String} :
    Content.record.codec.ofText text = .ok ⟨"chat", some ⟨true⟩⟩ ↔
      RefreshObject text ∨ RefreshListed text := by
  rw [Record.ofText_eq_ok_iff local_fields whole_fields (by decide), RefreshObject,
    refreshListed_iff, ← or_assoc, ← refreshIn_or]
  apply or_congr
  · constructor
    · rintro ⟨ms, hms, h⟩
      obtain ⟨hwell, w, v, hrest⟩ := (Content.ofMembers?_eq_some_iff (by decide) hms).mp h
      exact ⟨ms, w, v, hms, hwell, hrest⟩
    · rintro ⟨ms, w, v, hms, hwell, hrest⟩
      exact ⟨ms, hms, (Content.ofMembers?_eq_some_iff (by decide) hms).mpr ⟨hwell, w, v, hrest⟩⟩
  · constructor
    · rintro ⟨vs, hvs, h⟩
      obtain ⟨w, v, rfl, hrest⟩ :=
        (Content.ofItems?_eq_some_iff (by decide) fun v hv => hvs.value hv).mp h
      exact ⟨w, v, hvs, hrest⟩
    · rintro ⟨w, v, hvs, hrest⟩
      exact ⟨_, hvs, (Content.ofItems?_eq_some_iff (by decide) fun v hv => hvs.value hv).mpr
        ⟨w, v, rfl, hrest⟩⟩

/-- No data has both forms. -/
theorem RefreshObject.not_listed {text : String} (h : RefreshObject text) :
    ¬RefreshListed text := by
  obtain ⟨ms, w, v, hms, hwell, -, -, only, ns, hns, -⟩ := h
  intro hlisted
  cases hlisted with
  | chat hchat =>
    obtain ⟨ms', w', v', hms', hwell', -, -, only', hlist⟩ := hchat
    rw [OnlyMember.unique hms' hms hwell' hwell only' only] at hlist
    exact absurd rfl (not_both_start (r := []) (q := []) hns hlist)
  | content hvs => exact absurd rfl (not_both_start (r := []) (q := []) hms hvs)

/-! ## Messages -/

theorem Message.Carries.or {m : Message} {P Q : String → Prop} :
    m.Carries (fun text => P text ∨ Q text) ↔ m.Carries P ∨ m.Carries Q := by
  simp only [Carries, and_or_left, exists_or]

theorem Message.Carries.of_both {m : Message} {P Q : String → Prop} (h : m.Carries P)
    (h' : m.Carries Q) : ∃ text, P text ∧ Q text := by
  obtain ⟨sender, data, hpayload, hp⟩ := h
  obtain ⟨sender', data', hpayload', hq⟩ := h'
  rw [hpayload] at hpayload'
  cases hpayload'
  exact ⟨_, hp, hq⟩

/-- A message asks to refresh the chat if its data is read as the content that does. -/
theorem Message.refreshesChat_iff {m : Message} :
    m.refreshesChat = true ↔
      m.Carries fun text => Content.record.codec.ofText text = .ok ⟨"chat", some ⟨true⟩⟩ := by
  unfold refreshesChat
  constructor
  · intro h
    split at h
    · next sender data hpayload =>
      split at h
      · next c hc =>
        exact ⟨sender, data, hpayload, Content.refreshesChat_iff.mp h ▸ hc⟩
      · cases h
    · cases h
  · rintro ⟨sender, data, hpayload, hc⟩
    rw [hpayload]
    simp only [hc]
    rfl

/-- **Which messages ask to refresh the chat:** those whose data is an object that is meant to, and
    those whose data has a list in the place of an object. Hence a message asks for it exactly if
    its data is meant to, unless there is such a list. -/
theorem Message.refreshesChat_iff_object (m : Message) :
    ((m.refreshesChat = true ↔ m.Carries RefreshObject) ↔ ¬m.Carries RefreshListed) ∧
      (m.refreshesChat = true ↔ m.Carries RefreshObject ∨ m.Carries RefreshListed) := by
  have hforms : m.refreshesChat = true ↔ m.Carries RefreshObject ∨ m.Carries RefreshListed := by
    rw [Message.refreshesChat_iff, ← Message.Carries.or]
    simp only [Content.ofText_eq_ok_iff]
  refine ⟨?_, hforms⟩
  rw [hforms]
  constructor
  · intro honly hlisted
    obtain ⟨text, hobject, hlist⟩ := (honly.mp (.inr hlisted)).of_both hlisted
    exact hobject.not_listed hlist
  · exact fun hnot => or_iff_left hnot

/-- A message whose data is a list. -/
def listedChat : Message := ⟨none, .message ⟨none, some ⟨"[\"chat\",\x7b\"refresh\":true\x7d]"⟩⟩⟩

/-- A message asks to refresh the chat whose data has no member at all. -/
theorem listedChat_refreshesChat :
    listedChat.refreshesChat = true ∧ ¬listedChat.Carries RefreshObject := by
  refine ⟨by rfl, ?_⟩
  rintro ⟨sender, data, hpayload, ms, w, v, hms, -⟩
  cases hpayload
  obtain ⟨u, hbrace⟩ := hms.opens []
  cases hbrace

end Switchboard.Outbound
