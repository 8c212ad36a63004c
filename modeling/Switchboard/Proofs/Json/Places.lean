import Switchboard.Proofs.Json.Passing
import Switchboard.Proofs.Json.Records
/-
  Where the values of a record stand in its text. The grammar of JSON says which text is the value
  of which member of an object, or which item of a list (`MembersAt`, `ItemsAt`, `Inside`); it looks
  at no type. What a codec reads is one value of the grammar (`Codec.Whole`), so a record is read
  from exactly the places that the grammar gives to its fields (`Record.readAt`), which are members
  of an object or items of a list (`Record.readForm`).
-/
namespace Switchboard.Json

/-! ## The places in objects and lists -/

/-- The text goes on with members of an object, each with its name and the place of its value, and
    with the closing brace; the rest follows. -/
inductive MembersAt : Bool → List Char → List (String × List Char) → List Char → Prop
  | done {first : Bool} {s r : List Char} (close : nextName first s = .ok (.done r)) :
      MembersAt first s [] r
  | next {first : Bool} {s t u v w r : List Char} {name : String} {ms : List (String × List Char)}
      (opens : nextName first s = .ok (.next t)) (named : stringTail t = .ok (name, u))
      (colon : colon u = .ok v) (value : pass v = .ok w) (rest : MembersAt false w ms r) :
      MembersAt first s ((name, v) :: ms) r

/-- The text goes on with items of a list, given by their places, and with the closing bracket; the
    rest follows. -/
inductive ItemsAt : Bool → List Char → List (List Char) → List Char → Prop
  | done {first : Bool} {s r : List Char} (close : nextItem first s = .ok (.done r)) :
      ItemsAt first s [] r
  | next {first : Bool} {s v w r : List Char} {vs : List (List Char)}
      (opens : nextItem first s = .ok (.next v)) (value : pass v = .ok w)
      (rest : ItemsAt false w vs r) : ItemsAt first s (v :: vs) r

/-- The members with a name. -/
def named (name : String) (ms : List (String × List Char)) : List (String × List Char) :=
  ms.filter (·.1 = name)

/-- An object with the members stands at `s`; the rest follows. -/
def ObjectAt (s : List Char) (ms : List (String × List Char)) (r : List Char) : Prop :=
  ∃ u, skipBlanks s = '\x7b' :: u ∧ MembersAt true u ms r

/-- A list with the items stands at `s`; the rest follows. -/
def ListAt (s : List Char) (vs : List (List Char)) (r : List Char) : Prop :=
  ∃ u, skipBlanks s = '[' :: u ∧ ItemsAt true u vs r

/-- In the value at `s` the place `t` is that of the only member with the name, or that of the item
    with the index. -/
inductive Inside (name : String) (index : Nat) (s t : List Char) : Prop
  | member {u r : List Char} {ms : List (String × List Char)} (brace : skipBlanks s = '\x7b' :: u)
      (members : MembersAt true u ms r) (only : named name ms = [(name, t)])
  | item {u r : List Char} {vs : List (List Char)} (bracket : skipBlanks s = '[' :: u)
      (items : ItemsAt true u vs r) (here : vs[index]? = some t)

/-! ### Steps -/

theorem nextItem_done {first : Bool} {s r : List Char} (h : nextItem first s = .ok (.done r)) :
    skipBlanks s = ']' :: r := by
  unfold nextItem at h
  split at h
  · cases h
  · next hskip =>
    cases h
    exact hskip
  · split at h
    · cases h
    split at h
    · split at h <;> cases h
    · cases h

theorem nextItem_next_first {s v : List Char} (h : nextItem true s = .ok (.next v)) :
    ∃ c r, skipBlanks s = c :: r ∧ c ≠ ']' ∧ v = c :: r := by
  unfold nextItem at h
  split at h
  · cases h
  · cases h
  · next c r hc hskip =>
    rw [if_pos rfl] at h
    cases h
    exact ⟨c, r, hskip, hc, rfl⟩

theorem nextItem_next {s v : List Char} (h : nextItem false s = .ok (.next v)) :
    ∃ r c t, skipBlanks s = ',' :: r ∧ skipBlanks r = c :: t ∧ c ≠ ']' ∧ v = skipBlanks r := by
  unfold nextItem at h
  split at h
  · cases h
  · cases h
  · next c r hc hskip =>
    rw [if_neg Bool.false_ne_true] at h
    split at h
    · next hcomma =>
      subst hcomma
      split at h
      · cases h
      · cases h
      · next hnil hbracket =>
        cases h
        obtain ⟨d, t, hd⟩ := List.exists_cons_of_ne_nil hnil
        exact ⟨r, d, t, hskip, hd, fun heq => hbracket t (heq ▸ hd), rfl⟩
    · cases h

theorem nextName_done {first : Bool} {s r : List Char} (h : nextName first s = .ok (.done r)) :
    skipBlanks s = '\x7d' :: r := by
  unfold nextName at h
  split at h
  · cases h
  · next hskip =>
    cases h
    exact hskip
  · split at h
    · split at h <;> cases h
    split at h
    · split at h <;> cases h
    · cases h

theorem nextName_next_first {s t : List Char} (h : nextName true s = .ok (.next t)) :
    skipBlanks s = '"' :: t := by
  unfold nextName at h
  split at h
  · cases h
  · cases h
  · next c r hc hskip =>
    rw [if_pos rfl] at h
    split at h
    · next hquote =>
      cases h
      rw [hskip, hquote]
    · cases h

theorem nextName_next {s t : List Char} (h : nextName false s = .ok (.next t)) :
    ∃ r, skipBlanks s = ',' :: r ∧ skipBlanks r = '"' :: t := by
  unfold nextName at h
  split at h
  · cases h
  · cases h
  · next c r hc hskip =>
    rw [if_neg Bool.false_ne_true] at h
    split at h
    · next hcomma =>
      subst hcomma
      split at h
      · cases h
      · next hquote =>
        cases h
        exact ⟨r, hskip, hquote⟩
      · cases h
      · cases h
    · cases h

theorem colon_eq_ok {s r : List Char} (h : colon s = .ok r) : skipBlanks s = ':' :: r := by
  unfold colon at h
  split at h
  · cases h
  · next hskip =>
    cases h
    exact hskip
  · cases h

theorem closeList_eq_ok {s r : List Char} (h : closeList s = .ok r) : skipBlanks s = ']' :: r := by
  unfold closeList at h
  split at h
  · cases h
  · next hskip =>
    cases h
    exact hskip
  · split at h <;> cases h
  · cases h

/-! ### Objects and lists are passed over -/

/-- A member is passed over with its name. -/
theorem passMember_of_value {s t u v w : List Char} {name : String} {n : Nat}
    (hquote : skipBlanks s = '"' :: t) (named : stringTail t = .ok (name, u))
    (hcolon : colon u = .ok v) (value : pass v = .ok w) (hn : s.length ≤ n) :
    passMember (passValue n) s = .ok w := by
  have hstring := passString_of_stringTail named
  have ht := length_of_skipBlanks hquote
  have hu := length_of_passString hstring
  have hskip := colon_eq_ok hcolon
  have hv := length_of_skipBlanks hskip
  have hvalue := passValue_of_pass value (n := n) (by omega)
  simp only [passMember, hquote, if_true, hstring, bind, Except.bind, hskip, hvalue]

theorem passMember_skipBlanks (value : List Char → Except Fault (List Char)) (s : List Char) :
    passMember value (skipBlanks s) = passMember value s := by
  rw [passMember, passMember, skipBlanks_skipBlanks]

theorem passItems_of_membersAt {s r : List Char} {ms : List (String × List Char)}
    (h : MembersAt false s ms r) {n m : Nat} (hn : s.length ≤ n) (hm : s.length ≤ m) :
    passItems .object (passMember (passValue n)) m s = .ok r := by
  generalize hfirst : false = first at h
  induction h generalizing m with
  | done close =>
    have hskip := nextName_done close
    obtain ⟨m, rfl⟩ := Nat.exists_eq_add_one_of_ne_zero (n := m) (by
      have := length_of_skipBlanks hskip
      omega)
    rw [passItems, hskip]
    exact if_pos rfl
  | next opens named hcolon value rest ih =>
    subst hfirst
    obtain ⟨q, hcomma, hquote⟩ := nextName_next opens
    have hq := length_of_skipBlanks hcomma
    have hmember := passMember_of_value hquote named hcolon value (n := n) (by omega)
    have hw := length_of_passMember hmember
    obtain ⟨m, rfl⟩ := Nat.exists_eq_add_one_of_ne_zero (n := m) (by omega)
    rw [passItems, hcomma]
    exact bind_eq_ok.mpr ⟨_, hmember, ih (by omega) (by omega) rfl⟩

/-- The members of an object, after its brace, are passed over. -/
theorem passAll_of_membersAt {s r : List Char} {ms : List (String × List Char)}
    (h : MembersAt true s ms r) {n : Nat} (hn : s.length < n) :
    passAll .object (passMember (passValue n)) s = .ok r := by
  unfold passAll
  cases h with
  | done close =>
    rw [nextName_done close]
    exact if_pos rfl
  | next opens named hcolon value rest =>
    have hquote := nextName_next_first opens
    have hmember := passMember_of_value hquote named hcolon value (n := n) (by omega)
    rw [← passMember_skipBlanks, hquote] at hmember
    have hle := length_of_passMember hmember
    have hskip := length_skipBlanks_le s
    rw [hquote] at hskip
    rw [hquote]
    exact bind_eq_ok.mpr
      ⟨_, hmember, passItems_of_membersAt rest (by omega) (by omega)⟩

theorem passItems_of_itemsAt {s r : List Char} {vs : List (List Char)}
    (h : ItemsAt false s vs r) {n m : Nat} (hn : s.length ≤ n) (hm : s.length ≤ m) :
    passItems .list (passValue n) m s = .ok r := by
  generalize hfirst : false = first at h
  induction h generalizing m with
  | done close =>
    have hskip := nextItem_done close
    obtain ⟨m, rfl⟩ := Nat.exists_eq_add_one_of_ne_zero (n := m) (by
      have := length_of_skipBlanks hskip
      omega)
    rw [passItems, hskip]
    exact if_pos rfl
  | next opens value rest ih =>
    subst hfirst
    obtain ⟨q, _, _, hcomma, -, -, rfl⟩ := nextItem_next opens
    have hq := length_of_skipBlanks hcomma
    have hpass := pass_of_skipBlanks value
    have hw := length_of_pass hpass
    have hvalue := passValue_of_pass hpass (n := n) (by omega)
    obtain ⟨m, rfl⟩ := Nat.exists_eq_add_one_of_ne_zero (n := m) (by omega)
    rw [passItems, hcomma]
    exact bind_eq_ok.mpr ⟨_, hvalue, ih (by omega) (by omega) rfl⟩

/-- The items of a list, after its bracket, are passed over. -/
theorem passAll_of_itemsAt {s r : List Char} {vs : List (List Char)} (h : ItemsAt true s vs r)
    {n : Nat} (hn : s.length < n) : passAll .list (passValue n) s = .ok r := by
  unfold passAll
  cases h with
  | done close =>
    rw [nextItem_done close]
    exact if_pos rfl
  | next opens value rest =>
    obtain ⟨c, t, hskip, hc, rfl⟩ := nextItem_next_first opens
    have hle := length_skipBlanks_le s
    rw [hskip] at hle
    have hw := length_of_pass value
    have hvalue := passValue_of_pass value (n := n) (by omega)
    rw [hskip]
    dsimp only
    rw [if_neg (show ¬c = Closing.list.bracket from hc)]
    exact bind_eq_ok.mpr ⟨_, hvalue, passItems_of_itemsAt rest (by omega) (by omega)⟩

/-- An object is passed over. -/
theorem pass_of_membersAt {s u r : List Char} {ms : List (String × List Char)}
    (brace : skipBlanks s = '\x7b' :: u) (h : MembersAt true u ms r) : pass s = .ok r := by
  have hu := length_of_skipBlanks brace
  rw [pass, passValue, brace]
  exact passAll_of_membersAt h hu

/-- A list is passed over. -/
theorem pass_of_itemsAt {s u r : List Char} {vs : List (List Char)}
    (bracket : skipBlanks s = '[' :: u) (h : ItemsAt true u vs r) : pass s = .ok r := by
  have hu := length_of_skipBlanks bracket
  rw [pass, passValue, bracket]
  exact passAll_of_itemsAt h hu

/-! ### Places are places of the text -/

theorem suffix_of_nextName {first : Bool} {s t : List Char}
    (h : nextName first s = .ok (.next t)) : t <:+ s := by
  cases first with
  | true => exact suffix_of_skipBlanks (nextName_next_first h)
  | false =>
    obtain ⟨r, hcomma, hquote⟩ := nextName_next h
    exact (suffix_of_skipBlanks hquote).trans (suffix_of_skipBlanks hcomma)

theorem suffix_of_nextItem {first : Bool} {s v : List Char}
    (h : nextItem first s = .ok (.next v)) : v <:+ s := by
  cases first with
  | true =>
    obtain ⟨c, r, hskip, -, rfl⟩ := nextItem_next_first h
    exact hskip ▸ List.dropWhile_suffix isBlank
  | false =>
    obtain ⟨r, _, _, hcomma, -, -, rfl⟩ := nextItem_next h
    exact (List.dropWhile_suffix isBlank).trans (suffix_of_skipBlanks hcomma)

theorem suffix_of_stringTail {s r : List Char} {t : String} (h : stringTail s = .ok (t, r)) :
    r <:+ s := by
  obtain ⟨p, rfl, -, -⟩ := eq_append_of_passString (passString_of_stringTail h)
  exact List.suffix_append p r

theorem MembersAt.suffix {first : Bool} {s r : List Char} {ms : List (String × List Char)}
    (h : MembersAt first s ms r) : ∀ m ∈ ms, m.2 <:+ s := by
  induction h with
  | done => nofun
  | next opens named hcolon value rest ih =>
    have hv := (suffix_of_skipBlanks (colon_eq_ok hcolon)).trans
      ((suffix_of_stringTail named).trans (suffix_of_nextName opens))
    intro m hm
    rcases List.mem_cons.mp hm with rfl | hm
    · exact hv
    · exact (ih m hm).trans ((suffix_of_pass value).trans hv)

theorem ItemsAt.suffix {first : Bool} {s r : List Char} {vs : List (List Char)}
    (h : ItemsAt first s vs r) : ∀ v ∈ vs, v <:+ s := by
  induction h with
  | done => nofun
  | next opens value rest ih =>
    have hv := suffix_of_nextItem opens
    intro w hw
    rcases List.mem_cons.mp hw with rfl | hw
    · exact hv
    · exact (ih w hw).trans ((suffix_of_pass value).trans hv)

theorem Inside.suffix {name : String} {index : Nat} {s t : List Char}
    (h : Inside name index s t) : t <:+ s := by
  cases h with
  | member brace members only =>
    have hmem : (name, t) ∈ named name _ := only ▸ List.mem_singleton_self _
    exact (members.suffix _ (List.mem_filter.mp hmem).1).trans (suffix_of_skipBlanks brace)
  | item bracket items here =>
    exact (items.suffix t (List.mem_of_getElem? here)).trans (suffix_of_skipBlanks bracket)

theorem Inside.of_skipBlanks {name : String} {index : Nat} {s t : List Char}
    (h : Inside name index (skipBlanks s) t) : Inside name index s t := by
  cases h with
  | member brace members only => exact .member (skipBlanks_skipBlanks s ▸ brace) members only
  | item bracket items here => exact .item (skipBlanks_skipBlanks s ▸ bracket) items here

/-! ## What codecs read -/

/-- What the codec reads is one value of the grammar. -/
def Codec.Whole {α : Type} (c : Codec α) : Prop :=
  ∀ ⦃d s a r⦄, c.read d s = .ok (a, r) → pass s = .ok r

section

variable {α : Type} {c : Codec α}

theorem whole_text : Codec.text.Whole := by
  intro d s a r h
  simp only [Codec.text] at h
  split at h
  · next t hquote =>
    rw [pass, passValue, hquote]
    exact passString_of_stringTail h
  · cases h

theorem whole_raw : Codec.raw.Whole := by
  intro d s a r h
  obtain ⟨t, hpass, h⟩ := bind_eq_ok.mp h
  cases h
  exact pass_of_skipBlanks hpass

theorem Codec.Whole.optional (h : c.Whole) : c.optional.Whole := by
  intro d s a r hread
  simp only [Codec.optional] at hread
  split at hread
  · next t hn =>
    obtain ⟨u, hword, hread⟩ := bind_eq_ok.mp hread
    cases hread
    rw [pass, passValue, hn]
    exact hword
  · obtain ⟨⟨b, u⟩, hvalue, hread⟩ := bind_eq_ok.mp hread
    cases hread
    exact pass_of_skipBlanks (h hvalue)

theorem itemsAt_of_items {item : Reader α} (h : ∀ ⦃s a r⦄, item s = .ok (a, r) → pass s = .ok r)
    {n : Nat} {first : Bool} {s r : List Char} {as : List α}
    (hread : items item n first s = .ok (as, r)) : ∃ vs, ItemsAt first s vs r := by
  induction n generalizing first s as with
  | zero => cases hread
  | succ n ih =>
    rw [items] at hread
    obtain ⟨step, hstep, hread⟩ := bind_eq_ok.mp hread
    cases step with
    | done t =>
      cases hread
      exact ⟨[], .done hstep⟩
    | next t =>
      obtain ⟨⟨a, u⟩, hitem, hread⟩ := bind_eq_ok.mp hread
      obtain ⟨⟨bs, w⟩, hitems, hread⟩ := bind_eq_ok.mp hread
      cases hread
      obtain ⟨vs, hvs⟩ := ih hitems
      exact ⟨t :: vs, .next hstep (h hitem) hvs⟩

theorem Codec.Whole.list (h : c.Whole) : c.list.Whole := by
  intro d s a r hread
  simp only [Codec.list] at hread
  split at hread
  · next t hbracket =>
    split at hread
    · cases hread
    · obtain ⟨vs, hvs⟩ := itemsAt_of_items (fun _ _ _ hitem => h hitem) hread
      exact pass_of_itemsAt hbracket hvs
  · cases hread

end

/-! ## Records -/

/-- The value of a field is the one for its absence, or has been read at the place. -/
def Field.ReadAt {α : Type} (f : Field α) (place : List Char → Prop) (a : α) : Prop :=
  f.absent = some a ∨ ∃ d t r, place t ∧ f.codec.read d t = .ok (a, r)

theorem named_append_of_ne {name other : String} (h : other ≠ name)
    (ms : List (String × List Char)) (v : List Char) :
    named name (ms ++ [(other, v)]) = named name ms := by
  simp [named, List.filter_append, h]

theorem named_append_self (name : String) (ms : List (String × List Char)) (v : List Char) :
    named name (ms ++ [(name, v)]) = named name ms ++ [(name, v)] := by
  simp [named, List.filter_append]

/-- The slot of a field holds what stands in the members: nothing if its name does not occur, and
    what has been read at the one place of its name if it does. -/
def Field.SlotAt {α : Type} (f : Field α) (ms : List (String × List Char)) : Option α → Prop
  | none => named f.name ms = []
  | some a => ∃ d t r, named f.name ms = [(f.name, t)] ∧ f.codec.read d t = .ok (a, r)

/-- A further member with another name changes nothing for the slot. -/
theorem Field.SlotAt.append {α : Type} {f : Field α} {ms : List (String × List Char)}
    {slot : Option α} (h : f.SlotAt ms slot) {name : String} (hne : name ≠ f.name) (v : List Char) :
    f.SlotAt (ms ++ [(name, v)]) slot := by
  cases slot with
  | none => exact (named_append_of_ne hne ms v).trans h
  | some a =>
    obtain ⟨d, t, r, honly, hvalue⟩ := h
    exact ⟨d, t, r, (named_append_of_ne hne ms v).trans honly, hvalue⟩

namespace Fields

/-- Every field reads one value of the grammar. -/
def Whole {ts : List Type} : Fields ts → Prop
  | .nil => True
  | .cons f fs => f.codec.Whole ∧ fs.Whole

/-- Every field is absent or has been read at the place for its name and its index; the index of the
    first one is given. -/
def ReadAt (place : String → Nat → List Char → Prop) (index : Nat) {ts : List Type} :
    Fields ts → Tuple ts → Prop
  | .nil, _ => True
  | .cons f fs, (a, as) => f.ReadAt (place f.name index) a ∧ fs.ReadAt place (index + 1) as

theorem ReadAt.mono {P Q : String → Nat → List Char → Prop} {index : Nat} {ts : List Type}
    {fs : Fields ts} {as : Tuple ts} (h : fs.ReadAt P index as)
    (hPQ : ∀ name i t, P name i t → Q name i t) : fs.ReadAt Q index as := by
  induction fs generalizing index with
  | nil => trivial
  | cons f fs ih =>
    obtain ⟨a, as⟩ := as
    obtain ⟨hfield, hfields⟩ := h
    refine ⟨?_, ih hfields⟩
    rcases hfield with habsent | ⟨d, t, r, hplace, hvalue⟩
    · exact .inl habsent
    · exact .inr ⟨d, t, r, hPQ _ _ _ hplace, hvalue⟩

/-- Every slot holds what stands in the members. -/
def SlotsAt (ms : List (String × List Char)) {ts : List Type} : Fields ts → Slots ts → Prop
  | .nil, _ => True
  | .cons f fs, (slot, slots) => f.SlotAt ms slot ∧ fs.SlotsAt ms slots

theorem slotsAt_slots {ts : List Type} (fs : Fields ts) : fs.SlotsAt [] fs.slots := by
  induction fs with
  | nil => trivial
  | cons f fs ih => exact ⟨rfl, ih⟩

/-- A further member with another name changes no slot. -/
theorem SlotsAt.of_not_mem {ts : List Type} {fs : Fields ts} {ms : List (String × List Char)}
    {slots : Slots ts} {name : String} {v : List Char} (h : fs.SlotsAt ms slots)
    (hname : name ∉ fs.names) : fs.SlotsAt (ms ++ [(name, v)]) slots := by
  induction fs with
  | nil => trivial
  | cons f fs ih =>
    obtain ⟨slot, slots⟩ := slots
    obtain ⟨hslot, hslots⟩ := h
    have hne : name ≠ f.name := fun heq => hname (heq ▸ List.mem_cons_self)
    exact ⟨hslot.append hne v, ih hslots fun hmem => hname (List.mem_cons_of_mem _ hmem)⟩

/-- A member that is read is one of the grammar, and goes into the slot of its name. -/
theorem slotsAt_member {ts : List Type} {fs : Fields ts} (hwhole : fs.Whole)
    (hnames : fs.names.Nodup) {d : Nat} {name : String} {ms : List (String × List Char)}
    {slots next : Slots ts} {s r : List Char} (h : fs.SlotsAt ms slots)
    (hread : fs.member d name slots s = .ok (next, r)) :
    ∃ v, colon s = .ok v ∧ pass v = .ok r ∧ fs.SlotsAt (ms ++ [(name, v)]) next := by
  induction fs generalizing s r with
  | nil =>
    obtain ⟨v, hcolon, hread⟩ := bind_eq_ok.mp hread
    obtain ⟨u, hpass, hread⟩ := bind_eq_ok.mp hread
    cases hread
    exact ⟨v, hcolon, hpass, trivial⟩
  | cons f fs ih =>
    obtain ⟨slot, slots⟩ := slots
    obtain ⟨hslot, hslots⟩ := h
    obtain ⟨hfield, hfields⟩ := hwhole
    obtain ⟨hname, hnames⟩ := List.nodup_cons.mp hnames
    simp only [member] at hread
    split at hread
    · next heq =>
      subst heq
      cases slot with
      | some a => cases hread
      | none =>
        obtain ⟨v, hcolon, hread⟩ := bind_eq_ok.mp hread
        obtain ⟨⟨a, u⟩, hvalue, hread⟩ := bind_eq_ok.mp hread
        cases hread
        have honly : named f.name (ms ++ [(f.name, v)]) = [(f.name, v)] := by
          rw [named_append_self, show named f.name ms = [] from hslot, List.nil_append]
        exact ⟨v, hcolon, hfield hvalue, ⟨d, v, _, honly, hvalue⟩, hslots.of_not_mem hname⟩
    · next hne =>
      obtain ⟨⟨others, u⟩, hmember, hread⟩ := bind_eq_ok.mp hread
      cases hread
      obtain ⟨v, hcolon, hpass, hothers⟩ := ih hfields hnames hslots hmember
      exact ⟨v, hcolon, hpass, hslot.append (Ne.symm hne) v, hothers⟩

theorem readAt_of_filled {ts : List Type} {fs : Fields ts} {ms : List (String × List Char)}
    {place : String → Nat → List Char → Prop} {index : Nat} {slots : Slots ts} {as : Tuple ts}
    (hplace : ∀ name i t, named name ms = [(name, t)] → place name i t)
    (h : fs.SlotsAt ms slots) (hfilled : fs.filled slots = .ok as) : fs.ReadAt place index as := by
  induction fs generalizing index with
  | nil => trivial
  | cons f fs ih =>
    obtain ⟨slot, slots⟩ := slots
    obtain ⟨hslot, hslots⟩ := h
    simp only [filled] at hfilled
    split at hfilled
    · cases hfilled
    · next a ha =>
      obtain ⟨bs, hrest, hfilled⟩ := bind_eq_ok.mp hfilled
      cases hfilled
      refine ⟨?_, ih hslots hrest⟩
      cases slot with
      | some b =>
        cases ha
        obtain ⟨d, t, r, honly, hvalue⟩ := hslot
        exact .inr ⟨d, t, r, hplace _ _ _ honly, hvalue⟩
      | none => exact .inl ha

theorem readAt_of_absents {ts : List Type} {fs : Fields ts}
    {place : String → Nat → List Char → Prop} {i index : Nat} {as : Tuple ts}
    (h : fs.absents i = .ok as) : fs.ReadAt place index as := by
  induction fs generalizing i index with
  | nil => trivial
  | cons f fs ih =>
    simp only [absents] at h
    split at h
    · cases h
    · next a ha =>
      obtain ⟨bs, hrest, h⟩ := bind_eq_ok.mp h
      cases h
      exact ⟨.inl ha, ih hrest⟩

/-- The fields that are read from the items of a list stand at its items, in order. -/
theorem readAt_of_ofItems {ts : List Type} {fs : Fields ts} (hwhole : fs.Whole)
    {short : Nat → Cause} {d : Nat} {s r : List Char} {as : Tuple ts} (before : List (List Char))
    (h : fs.ofItems short d before.length s = .ok (as, r)) :
    ∃ vs, ItemsAt (before.length == 0) s vs r ∧
      fs.ReadAt (fun _ i t => (before ++ vs)[i]? = some t) before.length as := by
  -- The items before are those of the fields before.
  induction fs generalizing before s with
  | nil =>
    obtain ⟨t, hclose, h⟩ := bind_eq_ok.mp h
    cases h
    refine ⟨[], .done ?_, trivial⟩
    simp only [nextItem, closeList_eq_ok hclose]
  | cons f fs ih =>
    obtain ⟨hfield, hfields⟩ := hwhole
    simp only [ofItems] at h
    obtain ⟨step, hstep, h⟩ := bind_eq_ok.mp h
    cases step with
    | next t =>
      obtain ⟨⟨a, u⟩, hvalue, h⟩ := bind_eq_ok.mp h
      obtain ⟨⟨bs, w⟩, hrest, h⟩ := bind_eq_ok.mp h
      cases h
      have hlength : before.length + 1 = (before ++ [t]).length := by
        rw [List.length_append, List.length_singleton]
      rw [hlength] at hrest
      obtain ⟨vs, hvs, hfs⟩ := ih hfields (before ++ [t]) hrest
      rw [← hlength] at hvs hfs
      simp only [List.append_assoc, List.singleton_append] at hfs
      refine ⟨t :: vs, .next hstep (hfield hvalue) hvs, .inr ⟨d, t, u, ?_, hvalue⟩, hfs⟩
      simp
    | done t =>
      dsimp only at h
      split at h
      · next bs habsents =>
        cases h
        exact ⟨[], .done hstep, readAt_of_absents habsents⟩
      · cases h

end Fields

/-- What is read member by member has the members of the grammar. -/
theorem of_membersAt {σ : Type} {member : String → σ → Reader σ}
    {P : List (String × List Char) → σ → Prop}
    (h : ∀ ⦃ms name state s next r⦄, P ms state → member name state s = .ok (next, r) →
      ∃ v, colon s = .ok v ∧ pass v = .ok r ∧ P (ms ++ [(name, v)]) next)
    {n : Nat} {first : Bool} {s r : List Char} {state last : σ}
    {before : List (String × List Char)} (hstate : P before state)
    (hread : members member n first state s = .ok (last, r)) :
    ∃ ms, MembersAt first s ms r ∧ P (before ++ ms) last := by
  induction n generalizing first state s before with
  | zero => cases hread
  | succ n ih =>
    rw [members] at hread
    obtain ⟨step, hstep, hread⟩ := bind_eq_ok.mp hread
    cases step with
    | done t =>
      cases hread
      exact ⟨[], .done hstep, (List.append_nil before).symm ▸ hstate⟩
    | next t =>
      obtain ⟨⟨name, u⟩, hname, hread⟩ := bind_eq_ok.mp hread
      obtain ⟨⟨next, w⟩, hmember, hread⟩ := bind_eq_ok.mp hread
      obtain ⟨v, hcolon, hpass, hnext⟩ := h hstate hmember
      obtain ⟨ms, hms, hlast⟩ := ih hnext hread
      refine ⟨(name, v) :: ms, .next hstep hname hcolon hpass hms, ?_⟩
      rw [List.append_assoc] at hlast
      exact hlast

namespace Record

variable {α : Type} {r : Record α} {d : Nat} {s rest : List Char} {a : α}

/-- A record is read from an object or from a list, up to its end. In an object each of its fields
    is absent or has been read at the only member with its name, in a list at the item with its
    index. -/
theorem readForm (hwhole : r.fields.Whole) (hnames : r.fields.names.Nodup)
    (h : r.codec.read d s = .ok (a, rest)) :
    ∃ as, r.make as = a ∧
      ((∃ ms, ObjectAt s ms rest ∧
          r.fields.ReadAt (fun name _ t => named name ms = [(name, t)]) 0 as) ∨
        ∃ vs, ListAt s vs rest ∧ r.fields.ReadAt (fun _ index t => vs[index]? = some t) 0 as) := by
  simp only [codec] at h
  split at h
  · next u hbrace =>
    split at h
    · cases h
    · next d =>
      obtain ⟨⟨slots, t⟩, hmembers, h⟩ := bind_eq_ok.mp h
      dsimp only at h
      split at h
      · next as hfilled =>
        cases h
        obtain ⟨ms, hms, hslots⟩ := of_membersAt (P := fun ms slots => r.fields.SlotsAt ms slots)
          (fun _ _ _ _ _ _ hstate hmember => Fields.slotsAt_member hwhole hnames hstate hmember)
          (Fields.slotsAt_slots r.fields) hmembers
        exact ⟨as, rfl, .inl ⟨ms, ⟨u, hbrace, hms⟩,
          Fields.readAt_of_filled (fun _ _ _ honly => honly) hslots hfilled⟩⟩
      · cases h
  · next u hbracket =>
    split at h
    · cases h
    · next d =>
      obtain ⟨⟨as, t⟩, hitems, h⟩ := bind_eq_ok.mp h
      cases h
      obtain ⟨vs, hvs, has⟩ := Fields.readAt_of_ofItems hwhole [] hitems
      exact ⟨as, rfl, .inr ⟨vs, ⟨u, hbracket, hvs⟩, has⟩⟩
  · cases h

/-- **A record is read from its places.** Each of its fields is absent or has been read at the place
    that the grammar gives to it, and the record ends where the value of the grammar ends. -/
theorem readAt (hwhole : r.fields.Whole) (hnames : r.fields.names.Nodup)
    (h : r.codec.read d s = .ok (a, rest)) :
    pass s = .ok rest ∧ ∃ as, r.make as = a ∧
      r.fields.ReadAt (fun name index t => Inside name index s t) 0 as := by
  obtain ⟨as, hmake, ⟨ms, ⟨u, hbrace, hms⟩, has⟩ | ⟨vs, ⟨u, hbracket, hvs⟩, has⟩⟩ :=
    readForm hwhole hnames h
  · exact ⟨pass_of_membersAt hbrace hms, as, hmake,
      has.mono fun _ _ _ honly => .member hbrace hms honly⟩
  · exact ⟨pass_of_itemsAt hbracket hvs, as, hmake,
      has.mono fun _ _ _ hhere => .item hbracket hvs hhere⟩

theorem whole (hwhole : r.fields.Whole) (hnames : r.fields.names.Nodup) : r.codec.Whole :=
  fun _ _ _ _ h => (readAt hwhole hnames h).1

end Record

/-! ## Blobs -/

/-- The blob is the value that stands in the text under the names, or the indices, of a path. -/
def Raw.StandsAt (b : Raw) : List (String × Nat) → List Char → Prop
  | [], s => ∃ r, raw s = .ok (b, r)
  | (name, index) :: path, s => ∃ t, Inside name index s t ∧ b.StandsAt path t

theorem raw_skipBlanks (s : List Char) : raw (skipBlanks s) = raw s := by
  simp only [raw, skipBlanks_skipBlanks]

/-- A blob that stands in a text is a piece of it, character by character. -/
theorem Raw.StandsAt.infix {b : Raw} {path : List (String × Nat)} {s : List Char}
    (h : b.StandsAt path s) : b.text.toList <:+: s := by
  induction path generalizing s with
  | nil =>
    obtain ⟨r, hraw⟩ := h
    have hskip := (eq_append_of_raw hraw).1
    have hpiece : b.text.toList <:+: skipBlanks s := hskip ▸ (List.prefix_append _ r).isInfix
    exact hpiece.trans (List.dropWhile_suffix isBlank).isInfix
  | cons step path ih =>
    obtain ⟨t, hinside, ht⟩ := h
    exact (ih ht).trans hinside.suffix.isInfix

end Switchboard.Json
