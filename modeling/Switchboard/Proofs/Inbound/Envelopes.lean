import Switchboard.Proofs.Inbound.Slots
import Switchboard.Proofs.Json.Accepted
/-
  The forms in which a request is accepted. A frame is meant to be an object with a `type` and, for
  most kinds, an object under that name (`Enveloped`). Records are also read from lists, and so the
  frame may be a list, or its payload (`ListForm`). No other form is accepted: a record that has
  been read stands in an object or in a list (`Record.readForm`), the slot that the type names has
  been read from its place (`Frame.Holds.needed`), and what stands there is what the grammar has
  there (`ObjectAt.objectText`, `ListAt.listText`). `enveloped_iff` draws the line between the two.
-/
namespace Switchboard.Inbound

open Switchboard.Json

/-! ## Forms -/

/-- The kinds of requests that need a payload. -/
def needy : List String := ["hello", "room", "message", "control"]

/-- The text holds an object in which a member `type` is a string with the kind, and, if the kind
    needs a payload, a member of that name is an object. -/
def Enveloped (text : String) (kind : String) : Prop :=
  ∃ ms, ObjectText text.toList ms ∧ AsksFor ms kind ∧
    (kind ∈ needy → ∃ n v ns, (n, v) ∈ ms ∧ Spells n kind.toList ∧ ObjectText v ns)

/-- The index of a kind among the slots of a frame. -/
def slotIndex (kind : String) : Nat := Frame.record.fields.names.idxOf kind

/-- An object or a list. -/
def Bracketed (v : List Char) : Prop := (∃ ms, ObjectText v ms) ∨ ∃ vs, ListText v vs

/-- The text holds a list, in which the second item is a string with the kind, and the payload, if
    the kind needs one, is the item with the index of its slot; or it holds an object as it is meant
    to be, but for the payload that the kind needs, which is a list. -/
inductive ListForm (text : String) (kind : String) : Prop
  | frame {vs : List (List Char)} {w : List Char} (frame : ListText text.toList vs)
      (second : vs[1]? = some ('"' :: (w ++ ['"']))) (names : Spells w kind.toList)
      (payload : kind ∈ needy → ∃ v, vs[slotIndex kind]? = some v ∧ Bracketed v) :
      ListForm text kind
  | payload {ms : List (List Char × List Char)} {n v : List Char} {vs : List (List Char)}
      (frame : ObjectText text.toList ms) (asks : AsksFor ms kind) (needs : kind ∈ needy)
      (member : (n, v) ∈ ms) (names : Spells n kind.toList) (payload : ListText v vs) :
      ListForm text kind

/-! ## Values by their first characters -/

/-- A string is read at `s`. -/
def StringAt (s : List Char) (t : String) : Prop :=
  ∃ u r, skipBlanks s = '"' :: u ∧ stringTail u = .ok (t, r)

/-- An object or a list opens at `s`. -/
def Opened (s : List Char) : Prop :=
  (∃ u, skipBlanks s = '\x7b' :: u) ∨ ∃ u, skipBlanks s = '[' :: u

theorem StringAt.of_text {d : Nat} {s r : List Char} {t : String}
    (h : Codec.text.read d s = .ok (t, r)) : StringAt s t := by
  simp only [Codec.text] at h
  split at h
  · next u hquote => exact ⟨u, r, hquote, h⟩
  · cases h

theorem Opened.of_record {α : Type} {r : Record α} {d : Nat} {s rest : List Char} {a : α}
    (h : r.codec.read d (skipBlanks s) = .ok (a, rest)) : Opened s := by
  simp only [Record.codec, skipBlanks_skipBlanks] at h
  split at h
  · next u hbrace => exact .inl ⟨u, hbrace⟩
  · next u hbracket => exact .inr ⟨u, hbracket⟩
  · cases h

theorem StringAt.spells {s v : List Char} {t : String} (h : StringAt s t) (hv : ValueText v)
    (hfirst : FirstIn v s) : ∃ w, v = '"' :: (w ++ ['"']) ∧ Spells w t.toList := by
  obtain ⟨u, r, hquote, hread⟩ := h
  obtain ⟨q, hq⟩ := hfirst
  rw [hquote] at hq
  obtain ⟨s, rfl, rfl⟩ := hv.head_of_append hq.symm
  cases hv with
  | string hw =>
    rw [List.append_assoc] at hread
    exact ⟨_, rfl, (stringTail_letters_eq_ok hw hread).2⟩
  | numeral h => exact absurd h (not_numeral_cons (by decide) rfl)

theorem Opened.bracketed {s v : List Char} (h : Opened s) (hv : ValueText v)
    (hfirst : FirstIn v s) : Bracketed v := by
  obtain ⟨q, hq⟩ := hfirst
  rw [← List.append_nil v]
  rcases h with ⟨u, hbrace⟩ | ⟨u, hbracket⟩
  · rw [hbrace] at hq
    obtain ⟨t, rfl, -⟩ := hv.head_of_append hq.symm
    exact .inl (hv.object_of_head blanks_nil blanks_nil)
  · rw [hbracket] at hq
    obtain ⟨t, rfl, -⟩ := hv.head_of_append hq.symm
    exact .inr (hv.list_of_head blanks_nil blanks_nil)

/-! ## The places in a frame -/

theorem Frame.Holds.kind_eq {f : Frame} {p : Payload} (h : f.Holds p) :
    f.kind = p.kind ∧ p.kind ≠ "" := by
  cases h with
  | other kind =>
    rw [List.mem_cons, not_or] at kind
    exact ⟨rfl, kind.1⟩
  | _ => simp_all [Payload.kind]

/-- A slot that is filled has been read at its place. -/
theorem opened_of_slot {α : Type} {r : Record α} {name : String} {place : List Char → Prop} {a : α}
    (h : (Field.optional name r.codec).ReadAt place (some a)) : ∃ t, place t ∧ Opened t := by
  rcases h with habsent | ⟨d, t, rest, hplace, hread⟩
  · cases habsent
  · exact ⟨t, hplace, .of_record (read_of_optional_some hread).1⟩

section

variable {place : String → Nat → List Char → Prop} {as : Tuple Frame.record.types} {p : Payload}

/-- The kind of a request has been read at its place. -/
theorem Frame.Holds.named (hslots : Frame.record.fields.ReadAt place 0 as)
    (h : (Frame.record.make as).Holds p) : ∃ t, place "type" 1 t ∧ StringAt t p.kind := by
  obtain ⟨-, htype, -⟩ := hslots
  obtain ⟨hkind, hne⟩ := h.kind_eq
  rcases htype with habsent | ⟨d, t, r, hplace, hread⟩
  · exact absurd (hkind.symm.trans (Option.some.inj habsent).symm) hne
  · exact ⟨t, hplace, hkind ▸ StringAt.of_text hread⟩

/-- A payload that is needed has been read at its place. -/
theorem Frame.Holds.needed (hslots : Frame.record.fields.ReadAt place 0 as)
    (h : (Frame.record.make as).Holds p) (hneeds : p.kind ∈ needy) :
    ∃ t, place p.kind (slotIndex p.kind) t ∧ Opened t := by
  obtain ⟨id, kind, hello, bye, room, message, control, ⟨⟩⟩ := as
  obtain ⟨-, -, hhello, -, hroom, hmessage, hcontrol, -⟩ := hslots
  cases h with
  | hello h kind slot =>
    obtain rfl : hello = some h := slot
    exact opened_of_slot hhello
  | bye kind => exact absurd hneeds (by simp [needy, Payload.kind])
  | room r kind slot =>
    obtain rfl : room = some r := slot
    exact opened_of_slot hroom
  | message m kind slot =>
    obtain rfl : message = some m := slot
    exact opened_of_slot hmessage
  | control m kind slot =>
    obtain rfl : control = some m := slot
    exact opened_of_slot hcontrol
  | other hkind => simp_all [needy, Payload.kind]

end

/-! ## From places to forms -/

section

variable {text kind : String} {r : List Char}

theorem exists_of_forall₂ {α β : Type} {R : α → β → Prop} {as : List α} {bs : List β}
    (h : List.Forall₂ R as bs) {i : Nat} {b : β} (hb : bs[i]? = some b) :
    ∃ a, as[i]? = some a ∧ R a b := by
  induction h generalizing i with
  | nil => cases hb
  | cons hab _ ih =>
    cases i with
    | zero => exact ⟨_, rfl, Option.some.inj hb ▸ hab⟩
    | succ i => exact ih hb

/-- The members of the grammar with a name are those that have been read under it. -/
theorem exists_member {ns : List (String × List Char)} {ms : List (List Char × List Char)}
    (h : List.Forall₂ Matches ns ms) {name : String} {t : List Char} (ht : (name, t) ∈ ns) :
    ∃ n v, (n, v) ∈ ms ∧ Spells n name.toList ∧ FirstIn v t := by
  obtain ⟨i, hi⟩ := List.mem_iff_getElem?.mp ht
  obtain ⟨⟨n, v⟩, hm, hspells, hfirst⟩ := exists_of_forall₂ h.flip hi
  exact ⟨n, v, List.mem_of_getElem? hm, hspells, hfirst⟩

theorem firstIn_of_member {ns : List (String × List Char)} {ms : List (List Char × List Char)}
    (h : List.Forall₂ Matches ns ms) {name : String} {t : List Char}
    (only : Json.named name ns = [(name, t)]) {n v : List Char} (hm : (n, v) ∈ ms)
    (hspells : Spells n name.toList) : FirstIn v t := by
  obtain ⟨i, hi⟩ := List.mem_iff_getElem?.mp hm
  obtain ⟨⟨other, u⟩, hu, hother, hfirst⟩ := exists_of_forall₂ h hi
  have hname : other = name := by
    have hread := stringTail_spells hother []
    rw [stringTail_spells hspells []] at hread
    cases hread
    rfl
  subst hname
  have hmem : (other, u) ∈ Json.named other ns :=
    List.mem_filter.mpr ⟨List.mem_of_getElem? hu, decide_eq_true rfl⟩
  rw [only, List.mem_singleton] at hmem
  cases hmem
  exact hfirst

/-- An object from which a request has been read has one of the two forms. -/
theorem form_of_object {ns : List (String × List Char)} (hframe : ObjectAt text.toList ns r)
    (hr : Blanks r) (htype : ∃ t, ("type", t) ∈ ns ∧ StringAt t kind)
    (hpayload : kind ∈ needy → ∃ t, (kind, t) ∈ ns ∧ Opened t) :
    Enveloped text kind ∨ ListForm text kind := by
  obtain ⟨ms, hms, hmatches⟩ := hframe.objectText hr
  have hasks : AsksFor ms kind := by
    obtain ⟨t, ht, hstring⟩ := htype
    obtain ⟨n, v, hm, hn, hfirst⟩ := exists_member hmatches ht
    obtain ⟨w, rfl, hw⟩ := hstring.spells (hms.value hm) hfirst
    exact ⟨n, w, hm, hn, hw⟩
  by_cases hneeds : kind ∈ needy
  · obtain ⟨t, ht, hopened⟩ := hpayload hneeds
    obtain ⟨n, v, hm, hn, hfirst⟩ := exists_member hmatches ht
    rcases hopened.bracketed (hms.value hm) hfirst with ⟨os, hos⟩ | ⟨vs, hvs⟩
    · exact .inl ⟨ms, hms, hasks, fun _ => ⟨n, v, os, hm, hn, hos⟩⟩
    · exact .inr (.payload hms hasks hneeds hm hn hvs)
  · exact .inl ⟨ms, hms, hasks, fun hkind => absurd hkind hneeds⟩

/-- A list from which a request has been read has the form of lists. -/
theorem form_of_list {vs : List (List Char)} (hframe : ListAt text.toList vs r) (hr : Blanks r)
    (htype : ∃ t, vs[1]? = some t ∧ StringAt t kind)
    (hpayload : kind ∈ needy → ∃ t, vs[slotIndex kind]? = some t ∧ Opened t) :
    ListForm text kind := by
  obtain ⟨items, hitems, hfirst⟩ := hframe.listText hr
  have hitem : ∀ {i : Nat} {t : List Char}, vs[i]? = some t →
      ∃ v, items[i]? = some v ∧ ValueText v ∧ FirstIn v t := by
    intro i t ht
    obtain ⟨v, hv, hvt⟩ := exists_of_forall₂ hfirst ht
    exact ⟨v, hv, hitems.value (List.mem_of_getElem? hv), hvt⟩
  obtain ⟨t, ht, hstring⟩ := htype
  obtain ⟨v, hv, hvalue, hvt⟩ := hitem ht
  obtain ⟨w, rfl, hw⟩ := hstring.spells hvalue hvt
  refine .frame hitems hv hw fun hneeds => ?_
  obtain ⟨t, ht, hopened⟩ := hpayload hneeds
  obtain ⟨v, hv, hvalue, hvt⟩ := hitem ht
  exact ⟨v, hv, hopened.bracketed hvalue hvt⟩

/-- What has been read from an object, with one payload at most, has not both forms. -/
theorem Enveloped.not_listForm (h : Enveloped text kind) {ns : List (String × List Char)}
    (hframe : ObjectAt text.toList ns r)
    (hpayload : kind ∈ needy → ∃ t, Json.named kind ns = [(kind, t)]) : ¬ListForm text kind := by
  obtain ⟨ms, hms, -, hobject⟩ := h
  intro hlist
  cases hlist with
  | frame list => exact not_both_start (r := []) (q := []) hms list rfl
  | payload frame _ needs member names list =>
    obtain ⟨t, only⟩ := hpayload needs
    obtain ⟨n, v, os, hm, hn, hos⟩ := hobject needs
    obtain ⟨r, hv⟩ := firstIn_of_member (hms.matches hframe) only hm hn
    obtain ⟨q, hw⟩ := firstIn_of_member (frame.matches hframe) only member names
    exact not_both_start hos list (hv.symm.trans hw)

end

/-! ## The result -/

/-- **What is accepted is enveloped, unless a list takes the place of an object.** A text that is
    read as a request is an object that names the kind under `type` and holds an object under the
    name of the kind, if that needs a payload, exactly if neither the frame nor this payload is a
    list. -/
theorem enveloped_iff {text : String} {m : Request} (h : Request.ofText text = .ok m) :
    Enveloped text m.payload.kind ↔ ¬ListForm text m.payload.kind := by
  obtain ⟨f, rest, hread, hend, hholds⟩ := Request.exists_frame h
  have hrest := blanks_of_skipBlanks hend
  obtain ⟨as, rfl, ⟨ns, hframe, hslots⟩ | ⟨vs, hframe, hslots⟩⟩ :=
    Record.readForm Frame.whole_fields (by decide) hread
  · have hneeded := hholds.needed hslots
    have hmem : ∀ {name t}, Json.named name ns = [(name, t)] → (name, t) ∈ ns := fun honly =>
      (List.mem_filter.mp (honly ▸ List.mem_singleton_self _)).1
    obtain ⟨t, htype, hstring⟩ := hholds.named hslots
    have hform := form_of_object hframe hrest ⟨t, hmem htype, hstring⟩ fun hneeds =>
      (hneeded hneeds).imp fun _ ht => ⟨hmem ht.1, ht.2⟩
    refine ⟨fun henveloped => ?_, hform.resolve_right⟩
    exact henveloped.not_listForm hframe fun hneeds => (hneeded hneeds).imp fun _ ht => ht.1
  · have hlist := form_of_list hframe hrest (hholds.named hslots) (hholds.needed hslots)
    refine ⟨fun henveloped => ?_, fun hnot => absurd hlist hnot⟩
    obtain ⟨ms, hms, -, -⟩ := henveloped
    obtain ⟨items, hitems, -⟩ := hframe.listText hrest
    exact absurd rfl (not_both_start (r := []) (q := []) hms hitems)

/-- A frame that holds its payload as a list. -/
def listedRoom : String := "\x7b\"type\":\"room\",\"room\":[\"lobby\"]\x7d"

def listedMembers : List MemberText :=
  [.tight "type" "\"room\"", .tight "room" "[\"lobby\"]"]

def listedItems : List Padded := [⟨[], "\"lobby\"".toList, []⟩]

theorem enveloped_iff_listedRoom :
    Request.ofText listedRoom = .ok ⟨none, .room ⟨"lobby", ""⟩⟩ ∧ ListForm listedRoom "room" ∧
      ¬Enveloped listedRoom "room" := by
  have hread : Request.ofText listedRoom = .ok ⟨none, .room ⟨"lobby", ""⟩⟩ := by rfl
  have hspaced : ∀ p ∈ listedItems, p.Spaced :=
    List.forall_mem_singleton.mpr ⟨blanks_nil, blanks_nil⟩
  have hitems : ∀ p ∈ listedItems, ValueText p.text :=
    List.forall_mem_singleton.mpr (.plain (s := "lobby".toList) (by decide))
  have hframed : ∀ m ∈ listedMembers, m.Framed := by
    simp only [listedMembers, List.forall_mem_cons]
    exact ⟨framed_tight _ (by decide), framed_tight _ (by decide), nofun⟩
  have hvalues : ∀ m ∈ listedMembers, ValueText m.value.text := by
    simp only [listedMembers, List.forall_mem_cons]
    exact ⟨.plain (s := "room".toList) (by decide), .list (.inl rfl) hspaced hitems, nofun⟩
  have hframe : ObjectText listedRoom.toList (listedMembers.map (·.pair)) :=
    .intro blanks_nil blanks_nil (.inl rfl) hframed hvalues
  have hpayload : ListText "[\"lobby\"]".toList (listedItems.map (·.text)) :=
    .intro blanks_nil blanks_nil (.inl rfl) hspaced hitems
  have hroom : Spells "room".toList "room".toList := spells_self (by decide)
  have hasks : AsksFor (listedMembers.map (·.pair)) "room" :=
    ⟨_, "room".toList, List.mem_cons_self, spells_self (by decide), hroom⟩
  have hlist : ListForm listedRoom "room" :=
    .payload hframe hasks (by decide) (List.mem_cons_of_mem _ List.mem_cons_self) hroom hpayload
  exact ⟨hread, hlist, fun henveloped => (enveloped_iff hread).mp henveloped hlist⟩

/-- A frame that is a list itself. -/
def listedFrame : String := "[\"1\",\"room\",null,null,[\"lobby\"]]"

/-- A list is accepted that has no member at all. -/
theorem listedFrame_not_enveloped :
    Request.ofText listedFrame = .ok ⟨some "1", .room ⟨"lobby", ""⟩⟩ ∧
      ¬Enveloped listedFrame "room" := by
  refine ⟨by rfl, ?_⟩
  rintro ⟨ms, hms, -⟩
  obtain ⟨u, hbrace⟩ := hms.opens []
  cases hbrace

end Switchboard.Inbound
