import Switchboard.Proofs.Json.Locality
/-
  Objects, member by member. What a member does when a record is read from an object depends on its
  name and the text of its value, not on where it stands (`Fields.put`): it fills the slot of its
  field, or is passed over if there is none. So a whole object is a run of such steps
  (`Record.ofText_toOption`). Any two steps may change places (`Fields.put_comm`), and hence the
  members may stand in any order (`Record.ofMembers?_perm`); a member without a field may come in or
  go (`Record.ofMembers?_unknown`). What stands in a slot in the end has come from a member with the
  name of its field (`Fields.cameFrom_takeAll`), so a member for a field that no other one names
  fills the slot of that field and changes nothing else (`Fields.takeAll_cons_fits`).
-/
namespace Switchboard.Json

theorem toOption_bind {ε α β : Type} (x : Except ε α) (f : α → Except ε β) :
    (x >>= f).toOption = x.toOption.bind fun a => (f a).toOption := by
  cases x <;> rfl

theorem toOption_ok {ε α : Type} (a : α) : (.ok a : Except ε α).toOption = some a := rfl

theorem toOption_eq_some_iff {ε α : Type} {x : Except ε α} {a : α} :
    x.toOption = some a ↔ x = .ok a := by
  cases x with
  | error e => exact ⟨nofun, nofun⟩
  | ok b => exact ⟨fun h => congrArg _ (Option.some.inj h), fun h => congrArg some (Except.ok.inj h)⟩

/-! ## Names and values on their own -/

/-- The text that is spelled between two quotes, if it is. -/
def spelled? (n : List Char) : Option String := (stringTail (n ++ ['"'])).toOption.map (·.1)

/-- The value that a codec reads from a text that holds nothing else. -/
def Codec.valueOf? {α : Type} (c : Codec α) (d : Nat) (v : List Char) : Option α :=
  (c.read d v).toOption.map (·.1)

theorem spelled?_eq_some_iff {n : List Char} (h : Letters n) {t : String} :
    spelled? n = some t ↔ Spells n t.toList := by
  unfold spelled?
  constructor
  · intro hsome
    obtain ⟨⟨t', r⟩, hread, ht⟩ := Option.map_eq_some_iff.mp hsome
    cases ht
    cases hstring : stringTail (n ++ ['"']) with
    | error f =>
      rw [hstring] at hread
      cases hread
    | ok p =>
      rw [hstring] at hread
      cases hread
      exact (stringTail_letters_eq_ok h hstring).2
  · intro hspells
    rw [stringTail_spells hspells []]
    rfl

/-- A name is read before anything as it is read alone. -/
theorem stringTail_letters {n : List Char} (h : Letters n) (r : List Char) :
    (stringTail (n ++ '"' :: r)).toOption = (spelled? n).map (·, r) := by
  cases hread : stringTail (n ++ '"' :: r) with
  | ok p =>
    obtain ⟨t, r'⟩ := p
    obtain ⟨rfl, hspells⟩ := stringTail_letters_eq_ok h hread
    rw [(spelled?_eq_some_iff h).mpr hspells]
    rfl
  | error f =>
    cases hname : spelled? n with
    | none => rfl
    | some t =>
      rw [stringTail_spells ((spelled?_eq_some_iff h).mp hname) r] at hread
      cases hread

section

variable {α : Type} {c : Codec α} {d : Nat} {v : List Char}

theorem Codec.valueOf?_eq_some_iff (h : c.Local) (hwhole : c.Whole) (hv : ValueText v) {a : α} :
    c.valueOf? d v = some a ↔ c.read d v = .ok (a, []) := by
  unfold valueOf?
  constructor
  · intro hsome
    cases hread : c.read d v with
    | error f =>
      rw [hread] at hsome
      cases hsome
    | ok p =>
      obtain ⟨b, r⟩ := p
      rw [hread] at hsome
      cases hsome
      have hsplit : c.read d ([] ++ (v ++ [])) = .ok (b, r) := by
        rw [List.nil_append, List.append_nil]
        exact hread
      have hnil : Stops [] := trivial
      rw [((h.read_eq_ok_iff hwhole hv blanks_nil hnil).mp hsplit).1]
  · intro hread
    rw [hread]
    rfl

/-- A value is read between blanks and a rest as it is read alone. -/
theorem Codec.read_value (h : c.Local) (hwhole : c.Whole) (hv : ValueText v) {b r : List Char}
    (hb : Blanks b) (hr : Stops r) :
    (c.read d (b ++ (v ++ r))).toOption = (c.valueOf? d v).map (·, r) := by
  cases hread : c.read d (b ++ (v ++ r)) with
  | ok p =>
    obtain ⟨a, rest⟩ := p
    obtain ⟨rfl, halone⟩ := (h.read_eq_ok_iff hwhole hv hb hr).mp hread
    rw [(valueOf?_eq_some_iff h hwhole hv).mpr halone]
    rfl
  | error f =>
    cases hvalue : c.valueOf? d v with
    | none => rfl
    | some a =>
      have halone := (valueOf?_eq_some_iff h hwhole hv).mp hvalue
      rw [(h.read_eq_ok_iff hwhole hv hb hr).mpr ⟨rfl, halone⟩] at hread
      cases hread

end

/-- A text is read as a string exactly if it spells that in quotes. -/
theorem text_valueOf?_eq_some_iff {d : Nat} {v : List Char} (hv : ValueText v) {t : String} :
    Codec.text.valueOf? d v = some t ↔ ∃ w, v = '"' :: (w ++ ['"']) ∧ Spells w t.toList := by
  rw [Codec.valueOf?_eq_some_iff local_text whole_text hv]
  simp only [Codec.text, skipBlanks_value_alone hv]
  constructor
  · intro hread
    split at hread
    · obtain ⟨w, rfl, hspells⟩ := spells_of_stringTail hread
      exact ⟨w, rfl, hspells⟩
    · cases hread
  · rintro ⟨w, rfl, hspells⟩
    exact stringTail_spells hspells []

/-! ## One member -/

/-- What a further value does to the slot of a field: it fills the slot, unless that is filled
    already or the text is no value of the field. -/
def Field.fill {α : Type} (f : Field α) (d : Nat) (v : List Char) : Option α → Option (Option α)
  | some _ => none
  | none => (f.codec.valueOf? d v).map some

/-- No slot is filled twice. -/
theorem Field.fill_fill {α : Type} (f : Field α) (d : Nat) (v v' : List Char) (slot : Option α) :
    (f.fill d v slot).bind (f.fill d v') = none := by
  cases slot with
  | some a => rfl
  | none =>
    unfold fill
    cases f.codec.valueOf? d v <;> rfl

namespace Fields

variable {ts : List Type}

/-- What a member with the name and the text of its value does to the slots: it fills the slot of
    its field, and is passed over if it has none. -/
def put (d : Nat) (name : String) (v : List Char) {ts : List Type} :
    Fields ts → Slots ts → Option (Slots ts)
  | .nil, _ => some ()
  | .cons f fs, (slot, slots) =>
    if f.name = name then (f.fill d v slot).map fun slot => (slot, slots)
    else (fs.put d name v slots).map fun slots => (slot, slots)

theorem colon_blanks {b : List Char} (hb : Blanks b) (r : List Char) :
    colon (b ++ ':' :: r) = .ok r := by
  unfold colon
  rw [skipBlanks_blanks_cons hb rfl]
  rfl

/-- A member is read inside an object as its value is read alone. -/
theorem member_put {fs : Fields ts} (hlocal : fs.Local) (hwhole : fs.Whole) {v : List Char}
    (hv : ValueText v) {b b' r : List Char} (hb : Blanks b) (hb' : Blanks b') (hr : Stops r)
    (d : Nat) (name : String) (slots : Slots ts) :
    (fs.member d name slots (b ++ ':' :: (b' ++ (v ++ r)))).toOption =
      (fs.put d name v slots).map (·, r) := by
  induction fs with
  | nil =>
    have hpass : pass (b' ++ (v ++ r)) = .ok r := by
      apply pass_of_skipBlanks
      rw [skipBlanks_blanks hb', skipBlanks_value hv]
      exact pass_value hv hr
    simp only [member, colon_blanks hb, hpass, bind, Except.bind]
    rfl
  | cons f fs ih =>
    obtain ⟨slot, slots⟩ := slots
    obtain ⟨hfield, hfields⟩ := hlocal
    obtain ⟨hfieldWhole, hfieldsWhole⟩ := hwhole
    simp only [member, put]
    split
    · cases slot with
      | some a => rfl
      | none =>
        have hvalue := Codec.read_value (d := d) hfield hfieldWhole hv hb' hr
        rw [toOption_bind, colon_blanks hb, toOption_ok, Option.bind_some, toOption_bind, hvalue,
          Field.fill]
        cases f.codec.valueOf? d v <;> rfl
    · rw [toOption_bind, ih hfields hfieldsWhole slots]
      cases fs.put d name v slots <;> rfl

/-- Two members may change places: in either order they fill the same slots, or one of them
    cannot be read or finds its slot filled. -/
theorem put_comm (fs : Fields ts) (d : Nat) (name name' : String) (v v' : List Char)
    (slots : Slots ts) :
    (fs.put d name v slots).bind (fs.put d name' v') =
      (fs.put d name' v' slots).bind (fs.put d name v) := by
  induction fs with
  | nil => rfl
  | cons f fs ih =>
    obtain ⟨slot, slots⟩ := slots
    by_cases h : f.name = name
    · by_cases h' : f.name = name'
      · have htwice : ∀ x y, ((f.fill d x slot).bind fun slot =>
            (f.fill d y slot).map fun slot => (slot, slots)) = none := by
          intro x y
          have hnone := congrArg (Option.map fun slot => (slot, slots)) (f.fill_fill d x y slot)
          rwa [Option.map_bind] at hnone
        simp only [put, if_pos h, if_pos h', Option.bind_map, Function.comp_def]
        rw [htwice, htwice]
      · simp only [put, if_pos h, if_neg h', Option.bind_map, Function.comp_def]
        cases f.fill d v slot <;> cases fs.put d name' v' slots <;> rfl
    · by_cases h' : f.name = name'
      · simp only [put, if_neg h, if_pos h', Option.bind_map, Function.comp_def]
        cases f.fill d v' slot <;> cases fs.put d name v slots <;> rfl
      · simp only [put, if_neg h, if_neg h', Option.bind_map, Function.comp_def]
        have hrest := congrArg (Option.map fun slots => (slot, slots)) (ih slots)
        rwa [Option.map_bind, Option.map_bind] at hrest

/-! ## All members -/

/-- What a member does to the slots; one whose name does not spell a text cannot be read. -/
def take (d : Nat) (fs : Fields ts) (slots : Slots ts) (m : List Char × List Char) :
    Option (Slots ts) :=
  (spelled? m.1).bind fun name => fs.put d name m.2 slots

/-- What members do to the slots, one after the other. -/
def takeAll (d : Nat) (fs : Fields ts) (ms : List (List Char × List Char)) (slots : Slots ts) :
    Option (Slots ts) :=
  ms.foldlM (fs.take d) slots

theorem takeAll_cons (d : Nat) (fs : Fields ts) (m : List Char × List Char)
    (ms : List (List Char × List Char)) (slots : Slots ts) :
    fs.takeAll d (m :: ms) slots = (fs.take d slots m).bind (fs.takeAll d ms) := rfl

theorem take_comm (fs : Fields ts) (d : Nat) (m m' : List Char × List Char) (slots : Slots ts) :
    ((fs.take d slots m).bind fun slots => fs.take d slots m') =
      (fs.take d slots m').bind fun slots => fs.take d slots m := by
  unfold take
  cases spelled? m.1 with
  | none => simp
  | some name =>
    cases spelled? m'.1 with
    | none => simp
    | some name' => exact put_comm fs d name name' m.2 m'.2 slots

/-- The members may stand in any order. -/
theorem takeAll_perm (fs : Fields ts) (d : Nat) {ms ms' : List (List Char × List Char)}
    (h : ms.Perm ms') (slots : Slots ts) : fs.takeAll d ms slots = fs.takeAll d ms' slots := by
  induction h generalizing slots with
  | nil => rfl
  | cons m _ ih =>
    rw [takeAll_cons, takeAll_cons]
    congr 1
    funext slots
    exact ih slots
  | swap m m' ms =>
    have htwo : ∀ x y, fs.takeAll d (x :: y :: ms) slots =
        ((fs.take d slots x).bind fun slots => fs.take d slots y).bind (fs.takeAll d ms) := by
      intro x y
      rw [takeAll_cons, Option.bind_assoc]
      rfl
    rw [htwo, htwo, take_comm]
  | trans _ _ ih ih' => rw [ih, ih']

/-- What the first member does can as well be done last. -/
theorem takeAll_cons_last (fs : Fields ts) (d : Nat) (m : List Char × List Char)
    (ms : List (List Char × List Char)) (slots : Slots ts) :
    fs.takeAll d (m :: ms) slots = (fs.takeAll d ms slots).bind fun slots => fs.take d slots m := by
  have hlast : (m :: ms).Perm (ms ++ [m]) := (List.perm_append_singleton m ms).symm
  rw [takeAll_perm fs d hlast, takeAll, List.foldlM_append]
  congr 1
  funext slots
  rw [List.foldlM_cons]
  cases fs.take d slots m <;> rfl

/-! ### Members without a field -/

theorem put_of_not_mem {fs : Fields ts} {name : String} (h : name ∉ fs.names) (d : Nat)
    (v : List Char) (slots : Slots ts) : fs.put d name v slots = some slots := by
  induction fs with
  | nil => rfl
  | cons f fs ih =>
    obtain ⟨slot, slots⟩ := slots
    rw [names, List.mem_cons, not_or] at h
    rw [put, if_neg (Ne.symm h.1), ih h.2]
    rfl

/-! ### Where the values in the slots have come from -/

/-- What stands in a slot is the value of a member with the name of its field. -/
def CameFrom (d : Nat) (ms : List (List Char × List Char)) {ts : List Type} :
    Fields ts → Slots ts → Prop
  | .nil, _ => True
  | .cons f fs, (slot, slots) =>
    (∀ a ∈ slot, ∃ m ∈ ms, spelled? m.1 = some f.name ∧ f.codec.valueOf? d m.2 = some a) ∧
      fs.CameFrom d ms slots

theorem cameFrom_slots (d : Nat) (ms : List (List Char × List Char)) (fs : Fields ts) :
    fs.CameFrom d ms fs.slots := by
  induction fs with
  | nil => trivial
  | cons f fs ih => exact ⟨nofun, ih⟩

theorem cameFrom_put {d : Nat} {ms : List (List Char × List Char)} {fs : Fields ts}
    {slots next : Slots ts} (h : fs.CameFrom d ms slots) {m : List Char × List Char} (hm : m ∈ ms)
    {name : String} (hname : spelled? m.1 = some name)
    (hput : fs.put d name m.2 slots = some next) : fs.CameFrom d ms next := by
  induction fs with
  | nil => trivial
  | cons f fs ih =>
    obtain ⟨slot, slots⟩ := slots
    obtain ⟨hslot, hslots⟩ := h
    rw [put] at hput
    split at hput
    · next heq =>
      obtain ⟨filled, hfill, rfl⟩ := Option.map_eq_some_iff.mp hput
      refine ⟨?_, hslots⟩
      cases slot with
      | some a => cases hfill
      | none =>
        obtain ⟨a, ha, rfl⟩ := Option.map_eq_some_iff.mp hfill
        intro b hb
        cases hb
        exact ⟨m, hm, heq ▸ hname, ha⟩
    · obtain ⟨others, hothers, rfl⟩ := Option.map_eq_some_iff.mp hput
      exact ⟨hslot, ih hslots hothers⟩

theorem cameFrom_takeAll {d : Nat} {fs : Fields ts} {ms : List (List Char × List Char)}
    {last : Slots ts} (h : fs.takeAll d ms fs.slots = some last) : fs.CameFrom d ms last := by
  -- The members that are still to come are some of all, and what they meet came from these.
  suffices hrun : ∀ (rest : List (List Char × List Char)) (slots : Slots ts), rest ⊆ ms →
      fs.CameFrom d ms slots → fs.takeAll d rest slots = some last → fs.CameFrom d ms last from
    hrun ms fs.slots (List.Subset.refl ms) (cameFrom_slots d ms fs) h
  intro rest
  induction rest with
  | nil =>
    intro slots _ hslots hrun
    cases hrun
    exact hslots
  | cons m rest ih =>
    intro slots hsub hslots hrun
    obtain ⟨next, htake, hrest⟩ := Option.bind_eq_some_iff.mp hrun
    obtain ⟨name, hname, hput⟩ := Option.bind_eq_some_iff.mp htake
    obtain ⟨hm, hsub⟩ := List.cons_subset.mp hsub
    exact ih next hsub (cameFrom_put hslots hm hname hput) hrest

/-! ### A member for an empty slot -/

/-- The text is a value of the field with the name. -/
def Fits (d : Nat) (name : String) (v : List Char) {ts : List Type} : Fields ts → Prop
  | .nil => False
  | .cons f fs => if f.name = name then ∃ a, f.codec.valueOf? d v = some a else fs.Fits d name v

/-- The slots are the same, but perhaps for that of the field with the name. -/
def AgreeBut (name : String) {ts : List Type} : Fields ts → Slots ts → Slots ts → Prop
  | .nil, _, _ => True
  | .cons f fs, (slot, slots), (next, others) =>
    (f.name ≠ name → slot = next) ∧ fs.AgreeBut name slots others

theorem AgreeBut.refl (name : String) (fs : Fields ts) (slots : Slots ts) :
    fs.AgreeBut name slots slots := by
  induction fs with
  | nil => trivial
  | cons f fs ih => exact ⟨fun _ => rfl, ih slots.2⟩

/-- A value that fits its field is put into the slot if no member has filled it. -/
theorem put_of_fits {fs : Fields ts} {d : Nat} {name : String} {v : List Char}
    (hfits : fs.Fits d name v) {ms : List (List Char × List Char)} {slots : Slots ts}
    (hcame : fs.CameFrom d ms slots) (habsent : ∀ m ∈ ms, spelled? m.1 ≠ some name) :
    ∃ next, fs.put d name v slots = some next ∧ fs.AgreeBut name slots next := by
  induction fs with
  | nil => exact hfits.elim
  | cons f fs ih =>
    obtain ⟨slot, slots⟩ := slots
    obtain ⟨hslot, hslots⟩ := hcame
    rw [Fits] at hfits
    rw [put]
    split at hfits
    · next heq =>
      obtain ⟨a, ha⟩ := hfits
      cases slot with
      | some b =>
        obtain ⟨m, hm, hname, -⟩ := hslot b rfl
        exact absurd (heq ▸ hname) (habsent m hm)
      | none =>
        rw [if_pos heq, Field.fill, ha]
        exact ⟨_, rfl, fun hne => absurd heq hne, AgreeBut.refl name fs slots⟩
    · next hne =>
      obtain ⟨next, hput, hagree⟩ := ih hfits hslots
      rw [if_neg hne, hput]
      exact ⟨_, rfl, fun _ => rfl, hagree⟩

/-- A member that fits its field changes nothing but its slot, if no other has its name. -/
theorem takeAll_cons_fits {fs : Fields ts} {d : Nat} {n v : List Char} {name : String}
    (hname : spelled? n = some name) (hfits : fs.Fits d name v)
    {ms : List (List Char × List Char)} (habsent : ∀ m ∈ ms, spelled? m.1 ≠ some name)
    {slots : Slots ts} (h : fs.takeAll d ms fs.slots = some slots) :
    ∃ next, fs.takeAll d ((n, v) :: ms) fs.slots = some next ∧ fs.AgreeBut name slots next := by
  obtain ⟨next, hput, hagree⟩ := put_of_fits hfits (cameFrom_takeAll h) habsent
  refine ⟨next, ?_, hagree⟩
  rw [takeAll_cons_last, h, Option.bind_some, take, hname]
  exact hput

/-! ### Whole objects -/

section

variable {fs : Fields ts} {d : Nat}

/-- The closing brace ends the members. -/
theorem members_end {b : List Char} (hb : Blanks b) (first : Bool) (fuel : Nat) (slots : Slots ts)
    (r : List Char) :
    (members (fun name slots s => fs.member d name slots s) (fuel + 1) first slots
      (b ++ '\x7d' :: r)).toOption = some (slots, r) := by
  have hend : nextName first (b ++ '\x7d' :: r) = .ok (.done r) := by
    unfold nextName
    rw [skipBlanks_blanks_cons hb rfl]
    rfl
  rw [members, hend]
  rfl

/-- A member is read as it is on its own, and then the next ones, from the blanks after it. -/
theorem members_member (hlocal : fs.Local) (hwhole : fs.Whole) {m : MemberText} (h : m.Framed)
    (hv : ValueText m.value.text) {r s : List Char} (hr : Stops (m.value.after ++ r)) {first : Bool}
    (hnext : nextName first s = .ok (.next (m.fromName r))) (fuel : Nat) (slots : Slots ts) :
    (members (fun name slots s => fs.member d name slots s) (fuel + 1) first slots s).toOption =
      (fs.take d slots m.pair).bind fun slots =>
        (members (fun name slots s => fs.member d name slots s) fuel false slots
          (m.value.after ++ r)).toOption := by
  have hmember : ∀ name, (fs.member d name slots (m.name.after ++ ':' ::
      (m.value.before ++ (m.value.text ++ (m.value.after ++ r))))).toOption =
        (fs.put d name m.value.text slots).map (·, m.value.after ++ r) := fun name =>
    member_put hlocal hwhole hv h.name.after h.value.before hr d name slots
  rw [members, hnext, toOption_bind, toOption_ok, Option.bind_some]
  dsimp only
  rw [MemberText.fromName, toOption_bind, stringTail_letters h.letters, Option.bind_map, take,
    Option.bind_assoc]
  congr 1
  funext name
  rw [Function.comp_apply, toOption_bind, hmember, Option.bind_map]
  rfl

/-- A member is read, and then the ones after it. -/
theorem members_cons (hlocal : fs.Local) (hwhole : fs.Whole) {m : MemberText} {ms : List MemberText}
    (h : m.Framed) (hv : ValueText m.value.text) {fuel : Nat} {first : Bool} {s r : List Char}
    (hnext : nextName first s =
      .ok (.next (m.fromName ((ms.map (·.all)).flatMap (',' :: ·) ++ '\x7d' :: r))))
    (hrest : ∀ slots, (members (fun name slots s => fs.member d name slots s) fuel false slots
        (m.value.after ++ ((ms.map (·.all)).flatMap (',' :: ·) ++ '\x7d' :: r))).toOption =
      (fs.takeAll d (ms.map (·.pair)) slots).map (·, r))
    (slots : Slots ts) :
    (members (fun name slots s => fs.member d name slots s) (fuel + 1) first slots s).toOption =
      (fs.takeAll d ((m :: ms).map (·.pair)) slots).map (·, r) := by
  have hstops := @stops_after .object _ h.value.after rfl (ms.map (·.all)) r
  rw [members_member hlocal hwhole h hv hstops hnext, List.map_cons, takeAll_cons, Option.map_bind]
  congr 1
  funext next
  exact hrest next

/-- The members after the first are read one after the other. -/
theorem members_pieces (hlocal : fs.Local) (hwhole : fs.Whole) {ms : List MemberText}
    (framed : ∀ m ∈ ms, m.Framed) (values : ∀ m ∈ ms, ValueText m.value.text) {fuel : Nat}
    (hfuel : ms.length < fuel) {after : List Char} (hafter : Blanks after) (r : List Char)
    (slots : Slots ts) :
    (members (fun name slots s => fs.member d name slots s) fuel false slots
        (after ++ ((ms.map (·.all)).flatMap (',' :: ·) ++ '\x7d' :: r))).toOption =
      (fs.takeAll d (ms.map (·.pair)) slots).map (·, r) := by
  induction ms generalizing fuel after slots with
  | nil =>
    obtain ⟨fuel, rfl⟩ := Nat.exists_eq_add_one_of_ne_zero (Nat.ne_zero_of_lt hfuel)
    exact members_end hafter false fuel slots r
  | cons m ms ih =>
    obtain ⟨fuel, rfl⟩ := Nat.exists_eq_add_one_of_ne_zero (Nat.ne_zero_of_lt hfuel)
    obtain ⟨hm, hms⟩ := List.forall_mem_cons.mp framed
    obtain ⟨hv, hvs⟩ := List.forall_mem_cons.mp values
    have hrest := ih hms hvs (Nat.lt_of_succ_lt_succ hfuel) hm.value.after
    have hnext := nextName_of_comma (skipBlanks_blanks_cons hafter rfl _)
      (skipBlanks_blanks_cons hm.name.before rfl
        (m.fromName ((ms.map (·.all)).flatMap (',' :: ·) ++ '\x7d' :: r)))
    rw [List.map_cons, List.flatMap_cons, List.append_assoc, List.cons_append,
      MemberText.all_append]
    exact members_cons hlocal hwhole hm hv hnext hrest slots

/-- All members of an object are read, up to its closing brace. -/
theorem members_between (hlocal : fs.Local) (hwhole : fs.Whole) {ms : List MemberText}
    (framed : ∀ m ∈ ms, m.Framed) (values : ∀ m ∈ ms, ValueText m.value.text) {s : List Char}
    (between : Between (ms.map (·.all)) s) {fuel : Nat} (hfuel : s.length < fuel) (r : List Char)
    (slots : Slots ts) :
    (members (fun name slots s => fs.member d name slots s) fuel true slots
        (s ++ '\x7d' :: r)).toOption =
      (fs.takeAll d (ms.map (·.pair)) slots).map (·, r) := by
  obtain ⟨fuel, rfl⟩ := Nat.exists_eq_add_one_of_ne_zero (Nat.ne_zero_of_lt hfuel)
  rcases between with rfl | ⟨hnil, hb⟩
  · cases ms with
    | nil => exact members_end blanks_nil true fuel slots r
    | cons m ms =>
      obtain ⟨hm, hms⟩ := List.forall_mem_cons.mp framed
      obtain ⟨hv, hvs⟩ := List.forall_mem_cons.mp values
      have hlength : ms.length < fuel := by
        have hcount := length_le_joined ((m :: ms).map (·.all)) fun p hp => by
          obtain ⟨q, -, rfl⟩ := List.mem_map.mp hp
          exact q.all_ne_nil
        rw [List.length_map, List.length_cons] at hcount
        omega
      have hrest := members_pieces (d := d) hlocal hwhole hms hvs hlength hm.value.after r
      have hnext := nextName_of_quote (skipBlanks_blanks_cons hm.name.before rfl
        (m.fromName ((ms.map (·.all)).flatMap (',' :: ·) ++ '\x7d' :: r)))
      rw [List.map_cons, joined_cons, List.append_assoc, MemberText.all_append]
      exact members_cons hlocal hwhole hm hv hnext hrest slots
  · rw [List.map_eq_nil_iff.mp hnil]
    exact members_end hb true fuel slots r

end

/-- A field that may be absent has the value in its slot, or else its own. -/
theorem filled_cons {α : Type} {ts : List Type} (f : Field α) (fs : Fields ts) {a : α}
    (habsent : f.absent = some a) (slot : Option α) (slots : Slots ts) :
    (Fields.cons f fs).filled (slot, slots) =
      (fs.filled slots).map fun as => (slot.getD a, as) := by
  rw [Fields.filled, habsent]
  cases slot <;> cases fs.filled slots <;> rfl

end Fields

/-! ## Records -/

/-- What is read up to blanks is what the text holds. -/
theorem Codec.ofText_of_read {α : Type} {c : Codec α} {text : String} {o : Option α}
    {after : List Char} (hread : (c.read deepest text.toList).toOption = o.map (·, after))
    (hafter : Blanks after) : (c.ofText text).toOption = o := by
  have hend : skipBlanks after = [] := by
    have hskip := skipBlanks_blanks hafter []
    rwa [List.append_nil] at hskip
  unfold ofText atStart
  cases hresult : c.read deepest text.toList with
  | error f =>
    rw [hresult] at hread
    exact (Option.map_eq_none_iff.mp hread.symm).symm
  | ok p =>
    rw [hresult] at hread
    obtain ⟨a, rfl, rfl⟩ := Option.map_eq_some_iff.mp hread.symm
    simp only [atEnd, hend, bind, Except.bind]
    rfl

namespace Record

variable {α : Type} (r : Record α)

/-- The record that the members of an object make. -/
def ofMembers? (d : Nat) (ms : List (List Char × List Char)) : Option α :=
  (r.fields.takeAll d ms r.fields.slots).bind fun slots =>
    (r.fields.filled slots).toOption.map r.make

variable {r}

theorem ofObject_between (hlocal : r.fields.Local) (hwhole : r.fields.Whole) {ms : List MemberText}
    (framed : ∀ m ∈ ms, m.Framed) (values : ∀ m ∈ ms, ValueText m.value.text) {s : List Char}
    (between : Between (ms.map (·.all)) s) (d : Nat) (after : List Char) :
    (r.ofObject d (s ++ '\x7d' :: after)).toOption =
      (r.ofMembers? d (ms.map (·.pair))).map (·, after) := by
  have hlength : s.length < (s ++ '\x7d' :: after).length := by simp
  have hmembers := Fields.members_between (d := d) hlocal hwhole framed values between hlength after
    r.fields.slots
  rw [ofObject, toOption_bind, hmembers, Option.bind_map, ofMembers?, Option.map_bind]
  congr 1
  funext slots
  dsimp only [Function.comp_apply]
  cases r.fields.filled slots <;> rfl

/-- What is read from a text that holds an object depends on its members alone, each as it is on its
    own. -/
theorem ofText_toOption (hlocal : r.fields.Local) (hwhole : r.fields.Whole) {text : String}
    {ms : List (List Char × List Char)} (h : ObjectText text.toList ms) :
    (r.codec.ofText text).toOption = r.ofMembers? (deepest - 1) ms := by
  generalize hchars : text.toList = chars at h
  cases h with
  | @intro ms before s after hbefore hafter between framed values =>
    have hread : r.codec.read deepest (before ++ '\x7b' :: (s ++ '\x7d' :: after)) =
        r.ofObject (deepest - 1) (s ++ '\x7d' :: after) := by
      simp only [codec, skipBlanks_blanks_cons hbefore (show isBlank '\x7b' = false from rfl)]
      rfl
    refine Codec.ofText_of_read ?_ hafter
    rw [hchars, hread]
    exact ofObject_between hlocal hwhole framed values between (deepest - 1) after

theorem ofMembers?_perm {d : Nat} {ms ms' : List (List Char × List Char)} (h : ms.Perm ms') :
    r.ofMembers? d ms = r.ofMembers? d ms' := by
  unfold ofMembers?
  rw [Fields.takeAll_perm r.fields d h]

/-- A member without a field makes no difference. -/
theorem ofMembers?_unknown {d : Nat} {n v : List Char} {name : String}
    (hspelled : spelled? n = some name) (hname : name ∉ r.fields.names)
    (ms : List (List Char × List Char)) : r.ofMembers? d ((n, v) :: ms) = r.ofMembers? d ms := by
  unfold ofMembers?
  rw [Fields.takeAll_cons, Fields.take, hspelled, Option.bind_some,
    Fields.put_of_not_mem hname, Option.bind_some]

end Record

/-! ## Depth -/

/-- A codec whose values open few brackets: with at least as many allowed it does not matter how
    many there are. -/
def Codec.Shallow {α : Type} (n : Nat) (c : Codec α) : Prop :=
  ∀ d d', n ≤ d → n ≤ d' → c.read d = c.read d'

section

variable {α : Type} {c : Codec α} {n : Nat}

theorem shallow_text (n : Nat) : Codec.text.Shallow n := fun _ _ _ _ => rfl

theorem shallow_raw (n : Nat) : Codec.raw.Shallow n := fun _ _ _ _ => rfl

theorem Codec.Shallow.optional (h : c.Shallow n) : c.optional.Shallow n := by
  intro d d' hd hd'
  unfold Codec.optional
  dsimp only
  rw [h d d' hd hd']

theorem Codec.Shallow.list (h : c.Shallow n) : c.list.Shallow (n + 1) := by
  intro d d' hd hd'
  obtain ⟨d, rfl⟩ := Nat.exists_eq_add_one_of_ne_zero (Nat.ne_zero_of_lt hd)
  obtain ⟨d', rfl⟩ := Nat.exists_eq_add_one_of_ne_zero (Nat.ne_zero_of_lt hd')
  unfold Codec.list
  dsimp only
  rw [h d d' (Nat.le_of_succ_le_succ hd) (Nat.le_of_succ_le_succ hd')]

end

namespace Fields

/-- Every field opens few brackets. -/
def Shallow (n : Nat) {ts : List Type} : Fields ts → Prop
  | .nil => True
  | .cons f fs => f.codec.Shallow n ∧ fs.Shallow n

variable {ts : List Type} {fs : Fields ts} {n d d' : Nat}

theorem member_shallow (h : fs.Shallow n) (hd : n ≤ d) (hd' : n ≤ d') (name : String)
    (slots : Slots ts) (s : List Char) : fs.member d name slots s = fs.member d' name slots s := by
  induction fs with
  | nil => rfl
  | cons f fs ih =>
    obtain ⟨slot, slots⟩ := slots
    simp only [member, h.1 d d' hd hd', ih h.2]

theorem ofItems_shallow (h : fs.Shallow n) (hd : n ≤ d) (hd' : n ≤ d') (short : Nat → Cause)
    (index : Nat) (s : List Char) :
    fs.ofItems short d index s = fs.ofItems short d' index s := by
  induction fs generalizing index s with
  | nil => rfl
  | cons f fs ih => simp only [ofItems, h.1 d d' hd hd', ih h.2]

end Fields

namespace Record

variable {α : Type} {r : Record α} {n : Nat}

theorem shallow (h : r.fields.Shallow n) : r.codec.Shallow (n + 1) := by
  intro d d' hd hd'
  obtain ⟨d, rfl⟩ := Nat.exists_eq_add_one_of_ne_zero (Nat.ne_zero_of_lt hd)
  obtain ⟨d', rfl⟩ := Nat.exists_eq_add_one_of_ne_zero (Nat.ne_zero_of_lt hd')
  have hd := Nat.le_of_succ_le_succ hd
  have hd' := Nat.le_of_succ_le_succ hd'
  funext s
  simp only [codec, ofObject, ofList, Fields.member_shallow h hd hd',
    Fields.ofItems_shallow h hd hd']

end Record

end Switchboard.Json
