import Switchboard.Proofs.Json.Orders
/-
  What the members of an object make of the slots of a record, told in full. Members change the
  slots one after the other; told from all of them, a slot is empty exactly if no member has the
  name of its field, and holds a value exactly if one member alone has the name and its text is read
  as this value (`Field.Gets`). One more member changes this as it changes the slot
  (`Fields.get_cons`), so by induction the slots in the end are those that the members have for the
  fields, and there are any exactly if every name spells a text (`Fields.takeAll_eq_some_iff`).

  The values themselves are told from their texts: `null` where a value may be absent
  (`Codec.optional_valueOf?`), and otherwise what a whole text would give
  (`Record.valueOf?_eq_ofText`).
-/
namespace Switchboard.Json

/-! ## Members by their names -/

/-- The texts of the values of the members with a name. -/
def valuesOf (name : String) (ms : List (List Char × List Char)) : List (List Char) :=
  (ms.filter (spelled? ·.1 = some name)).map (·.2)

/-- One member alone has the name, and its value has the text. -/
def OnlyMember (name : String) (v : List Char) (ms : List (List Char × List Char)) : Prop :=
  ∃ before n after, ms = before ++ (n, v) :: after ∧ Spells n name.toList ∧
    ∀ m ∈ before ++ after, ¬Spells m.1 name.toList

/-- No two members have the name. -/
def AtMostOnce (name : String) (ms : List (List Char × List Char)) : Prop :=
  ms.Pairwise fun m m' => ¬(Spells m.1 name.toList ∧ Spells m'.1 name.toList)

/-- Every name spells a text. -/
def WellNamed (ms : List (List Char × List Char)) : Prop :=
  ∀ m ∈ ms, ∃ name : String, Spells m.1 name.toList

section

variable {name : String} {ms : List (List Char × List Char)}

theorem valuesOf_cons_self {n : List Char} (h : spelled? n = some name) (v : List Char)
    (ms : List (List Char × List Char)) :
    valuesOf name ((n, v) :: ms) = v :: valuesOf name ms := by
  have hself : decide (spelled? (n, v).1 = some name) = true := decide_eq_true h
  unfold valuesOf
  rw [List.filter_cons, if_pos hself, List.map_cons]

theorem valuesOf_cons_of_ne {m : List Char × List Char} (h : spelled? m.1 ≠ some name)
    (ms : List (List Char × List Char)) : valuesOf name (m :: ms) = valuesOf name ms := by
  unfold valuesOf
  rw [List.filter_cons_of_neg (by rwa [decide_eq_true_eq])]

theorem mem_valuesOf {v : List Char} :
    v ∈ valuesOf name ms ↔ ∃ n, (n, v) ∈ ms ∧ spelled? n = some name := by
  unfold valuesOf
  simp only [List.mem_map, List.mem_filter, decide_eq_true_eq, Prod.exists, exists_eq_right]

theorem onlyMember_iff (hletters : ∀ m ∈ ms, Letters m.1) {v : List Char} :
    OnlyMember name v ms ↔ valuesOf name ms = [v] := by
  have hspelled : ∀ m ∈ ms, spelled? m.1 = some name ↔ Spells m.1 name.toList := fun m hm =>
    spelled?_eq_some_iff (hletters m hm)
  unfold valuesOf
  constructor
  · rintro ⟨before, n, after, rfl, hn, hothers⟩
    have hnone : ∀ l ⊆ before ++ after, l ⊆ before ++ (n, v) :: after →
        l.filter (spelled? ·.1 = some name) = [] := by
      intro l hl hsub
      rw [List.filter_eq_nil_iff]
      intro m hm
      rw [decide_eq_true_eq, hspelled m (hsub hm)]
      exact hothers m (hl hm)
    have hself : decide (spelled? (n, v).1 = some name) = true :=
      decide_eq_true ((spelled?_eq_some_iff hn.letters).mpr hn)
    rw [List.filter_append, List.filter_cons, if_pos hself,
      hnone before (List.subset_append_left _ _) (List.subset_append_left _ _),
      hnone after (List.subset_append_right _ _)
        (List.Subset.trans (List.subset_cons_self _ _) (List.subset_append_right _ _))]
    rfl
  · intro h
    obtain ⟨⟨n, w⟩, hfilter, rfl⟩ := List.map_eq_singleton_iff.mp h
    obtain ⟨before, after, rfl, hbefore, hn, hafter⟩ := List.filter_eq_cons_iff.mp hfilter
    rw [List.filter_eq_nil_iff] at hafter
    refine ⟨before, n, after, rfl, ?_, ?_⟩
    · exact (hspelled (n, w) (List.mem_append_right _ List.mem_cons_self)).mp (of_decide_eq_true hn)
    · intro m hm hspells
      have hname : spelled? m.1 = some name := (spelled?_eq_some_iff hspells.letters).mpr hspells
      rcases List.mem_append.mp hm with hm | hm
      · exact hbefore m hm (decide_eq_true hname)
      · exact hafter m hm (decide_eq_true hname)

theorem atMostOnce_iff (hletters : ∀ m ∈ ms, Letters m.1) :
    AtMostOnce name ms ↔ (valuesOf name ms).length ≤ 1 := by
  have hlength (l : List (List Char × List Char)) :
      l.Pairwise (fun _ _ => False) ↔ l.length ≤ 1 := by
    cases l with
    | nil => simp
    | cons m l =>
      cases l with
      | nil => simp
      | cons m' l =>
        simp only [List.length_cons]
        exact ⟨fun h => (List.rel_of_pairwise_cons h List.mem_cons_self).elim, fun h => by omega⟩
  unfold valuesOf AtMostOnce
  rw [List.length_map, ← hlength, List.pairwise_filter]
  refine List.Pairwise.iff_of_mem fun {m m'} hm hm' => ?_
  rw [decide_eq_true_eq, decide_eq_true_eq, spelled?_eq_some_iff (hletters m hm),
    spelled?_eq_some_iff (hletters m' hm'), not_and]

theorem wellNamed_iff (hletters : ∀ m ∈ ms, Letters m.1) :
    WellNamed ms ↔ ∀ m ∈ ms, (spelled? m.1).isSome = true := by
  refine forall₂_congr fun m hm => ?_
  rw [Option.isSome_iff_exists]
  simp only [spelled?_eq_some_iff (hletters m hm)]

end

/-! ## Slots from members -/

/-- What the members have for a field: nothing if none has its name, and the value that is read if
    one alone has it. -/
def Field.Gets {α : Type} (f : Field α) (d : Nat) (ms : List (List Char × List Char)) :
    Option α → Prop
  | none => valuesOf f.name ms = []
  | some a => ∃ v, valuesOf f.name ms = [v] ∧ f.codec.valueOf? d v = some a

theorem Field.gets_cons_of_ne {α : Type} {f : Field α} {m : List Char × List Char}
    (h : spelled? m.1 ≠ some f.name) (d : Nat) (ms : List (List Char × List Char))
    (slot : Option α) : f.Gets d (m :: ms) slot ↔ f.Gets d ms slot := by
  cases slot <;> simp only [Gets, valuesOf_cons_of_ne h]

/-- A member with the name of a field changes what there is for it as it fills the slot. -/
theorem Field.gets_cons_self {α : Type} {f : Field α} {n : List Char}
    (h : spelled? n = some f.name) (d : Nat) (v : List Char) (ms : List (List Char × List Char))
    (next : Option α) :
    f.Gets d ((n, v) :: ms) next ↔ ∃ slot, f.Gets d ms slot ∧ f.fill d v slot = some next := by
  cases next with
  | none =>
    simp only [Gets, valuesOf_cons_self h, reduceCtorEq, false_iff, not_exists, not_and]
    intro slot _
    cases slot <;> simp [fill]
  | some a =>
    simp only [Gets, valuesOf_cons_self h, List.cons.injEq]
    constructor
    · rintro ⟨_, ⟨rfl, hnone⟩, ha⟩
      exact ⟨none, hnone, by rw [fill, ha, Option.map_some]⟩
    · rintro ⟨slot, hslot, hfill⟩
      cases slot with
      | some b => cases hfill
      | none =>
        obtain ⟨b, hb, heq⟩ := Option.map_eq_some_iff.mp hfill
        cases heq
        exact ⟨v, ⟨rfl, hslot⟩, hb⟩

namespace Fields

variable {ts : List Type} {fs : Fields ts} {d : Nat} {ms : List (List Char × List Char)}

/-- The slots are what the members have for the fields. -/
def Get (d : Nat) (ms : List (List Char × List Char)) {ts : List Type} :
    Fields ts → Slots ts → Prop
  | .nil, _ => True
  | .cons f fs, (slot, slots) => f.Gets d ms slot ∧ fs.Get d ms slots

theorem get_nil {slots : Slots ts} : fs.Get d [] slots ↔ fs.slots = slots := by
  induction fs with
  | nil => exact ⟨fun _ => rfl, fun _ => trivial⟩
  | cons f fs ih =>
    obtain ⟨slot, slots⟩ := slots
    rw [Get, ih, Fields.slots, Prod.mk.injEq]
    cases slot <;> simp [Field.Gets, valuesOf]

/-- A member without a field changes nothing. -/
theorem get_cons_of_not_mem {n : List Char} {name : String} (hn : spelled? n = some name)
    (h : name ∉ fs.names) (v : List Char) (slots : Slots ts) :
    fs.Get d ((n, v) :: ms) slots ↔ fs.Get d ms slots := by
  induction fs with
  | nil => exact Iff.rfl
  | cons f fs ih =>
    obtain ⟨slot, slots⟩ := slots
    rw [names, List.mem_cons, not_or] at h
    have hne : spelled? n ≠ some f.name := fun hf => h.1 (Option.some.inj (hn.symm.trans hf))
    rw [Get, Get, Field.gets_cons_of_ne hne, ih h.2]

/-- A further member changes what there is for the fields as it changes the slots. -/
theorem get_cons (hnames : fs.names.Nodup) {n : List Char} {name : String}
    (hn : spelled? n = some name) (v : List Char) (next : Slots ts) :
    fs.Get d ((n, v) :: ms) next ↔
      ∃ slots, fs.Get d ms slots ∧ fs.put d name v slots = some next := by
  induction fs with
  | nil => exact ⟨fun _ => ⟨next, trivial, rfl⟩, fun _ => trivial⟩
  | cons f fs ih =>
    obtain ⟨slot', next⟩ := next
    obtain ⟨hf, hfs⟩ := List.nodup_cons.mp hnames
    simp only [Get, put]
    by_cases heq : f.name = name
    · -- The member fills the slot of this field and leaves those of the others.
      subst heq
      rw [Field.gets_cons_self hn, get_cons_of_not_mem hn hf]
      simp only [if_true, Prod.exists, Option.map_eq_some_iff, Prod.mk.injEq]
      constructor
      · rintro ⟨⟨slot, hslot, hfill⟩, hothers⟩
        exact ⟨slot, next, ⟨hslot, hothers⟩, slot', hfill, rfl, rfl⟩
      · rintro ⟨slot, others, ⟨hslot, hothers⟩, _, hfill, rfl, rfl⟩
        exact ⟨⟨slot, hslot, hfill⟩, hothers⟩
    · have hne : spelled? n ≠ some f.name := fun h =>
        heq (Option.some.inj (h.symm.trans hn))
      rw [Field.gets_cons_of_ne hne, ih hfs]
      simp only [if_neg heq, Prod.exists, Option.map_eq_some_iff, Prod.mk.injEq]
      constructor
      · rintro ⟨hslot, others, hothers, hput⟩
        exact ⟨slot', others, ⟨hslot, hothers⟩, next, hput, rfl, rfl⟩
      · rintro ⟨slot, others, ⟨hslot, hothers⟩, _, hput, rfl, rfl⟩
        exact ⟨hslot, others, hothers, hput⟩

/-- **The slots in the end are what the members have for the fields,** if every name spells a text,
    and otherwise there are none. -/
theorem takeAll_eq_some_iff (hnames : fs.names.Nodup) {slots : Slots ts} :
    fs.takeAll d ms fs.slots = some slots ↔
      (∀ m ∈ ms, (spelled? m.1).isSome = true) ∧ fs.Get d ms slots := by
  induction ms generalizing slots with
  | nil =>
    rw [get_nil]
    exact ⟨fun h => ⟨nofun, Option.some.inj h⟩, fun h => congrArg some h.2⟩
  | cons m ms ih =>
    obtain ⟨n, v⟩ := m
    rw [takeAll_cons_last, Option.bind_eq_some_iff, List.forall_mem_cons]
    simp only [take, Option.bind_eq_some_iff]
    constructor
    · rintro ⟨before, hbefore, name, hn, hput⟩
      obtain ⟨hspelled, hget⟩ := ih.mp hbefore
      refine ⟨⟨Option.isSome_of_eq_some hn, hspelled⟩, ?_⟩
      exact (get_cons hnames hn v slots).mpr ⟨before, hget, hput⟩
    · rintro ⟨⟨hn, hspelled⟩, hget⟩
      obtain ⟨name, hn⟩ := Option.isSome_iff_exists.mp hn
      obtain ⟨before, hbefore, hput⟩ := (get_cons hnames hn v slots).mp hget
      exact ⟨before, ih.mpr ⟨hspelled, hbefore⟩, name, hn, hput⟩

/-- There are slots for the fields if no name occurs twice and every value fits its field. -/
theorem exists_get_iff (hnames : fs.names.Nodup) :
    (∃ slots, fs.Get d ms slots) ↔
      ∀ name ∈ fs.names, (valuesOf name ms).length ≤ 1 ∧
        ∀ v ∈ valuesOf name ms, fs.Fits d name v := by
  induction fs with
  | nil => exact ⟨fun _ => nofun, fun _ => ⟨(), trivial⟩⟩
  | cons f fs ih =>
    obtain ⟨hf, hfs⟩ := List.nodup_cons.mp hnames
    have hfirst : (∃ slot, f.Gets d ms slot) ↔ (valuesOf f.name ms).length ≤ 1 ∧
        ∀ v ∈ valuesOf f.name ms, ∃ a, f.codec.valueOf? d v = some a := by
      constructor
      · rintro ⟨slot, hslot⟩
        cases slot with
        | none =>
          rw [show valuesOf f.name ms = [] from hslot]
          exact ⟨Nat.zero_le 1, nofun⟩
        | some a =>
          obtain ⟨v, hv, ha⟩ := hslot
          rw [hv]
          exact ⟨Nat.le_refl 1, List.forall_mem_singleton.mpr ⟨a, ha⟩⟩
      · rintro ⟨hlength, hvalues⟩
        cases hall : valuesOf f.name ms with
        | nil => exact ⟨none, hall⟩
        | cons v vs =>
          rw [hall] at hlength hvalues
          obtain ⟨a, ha⟩ := hvalues v List.mem_cons_self
          have hvs : vs = [] := List.eq_nil_of_length_eq_zero (Nat.le_zero.mp
            (Nat.le_of_succ_le_succ hlength))
          exact ⟨some a, v, hvs ▸ hall, ha⟩
    have hothers : ∀ name ∈ fs.names, ∀ v,
        (Fields.cons f fs).Fits d name v ↔ fs.Fits d name v := by
      intro name hname v
      rw [Fits, if_neg fun heq : f.name = name => hf (heq ▸ hname)]
    have hself : ∀ v, (Fields.cons f fs).Fits d f.name v ↔ ∃ a, f.codec.valueOf? d v = some a := by
      intro v
      rw [Fits, if_pos rfl]
    rw [names, List.forall_mem_cons]
    simp only [Prod.exists, Get, exists_and_left, exists_and_right, hself]
    rw [← hfirst, ih hfs]
    refine and_congr_right fun _ => forall₂_congr fun name hname => ?_
    simp only [hothers name hname]

end Fields

theorem OnlyMember.value {name : String} {text v : List Char} {ms : List (List Char × List Char)}
    (only : OnlyMember name v ms) (h : ObjectText text ms) : ValueText v := by
  obtain ⟨before, n, after, rfl, -, -⟩ := only
  exact h.value (List.mem_append_right before List.mem_cons_self)

/-- What there is for a field has been read from the value of the only member with its name. -/
theorem Field.gets_some_iff {α : Type} {f : Field α} {d : Nat} {text : List Char}
    {ms : List (List Char × List Char)} (h : ObjectText text ms) {a : α} :
    f.Gets d ms (some a) ↔
      ∃ v, ValueText v ∧ OnlyMember f.name v ms ∧ f.codec.valueOf? d v = some a := by
  have hletters : ∀ m ∈ ms, Letters m.1 := fun m hm => h.name hm
  simp only [Gets, onlyMember_iff hletters]
  constructor
  · rintro ⟨v, hvalues, hread⟩
    obtain ⟨n, hm, -⟩ := mem_valuesOf.mp (hvalues ▸ List.mem_singleton_self v)
    exact ⟨v, h.value hm, hvalues, hread⟩
  · rintro ⟨v, -, hvalues, hread⟩
    exact ⟨v, hvalues, hread⟩

/-- A record is made of what the members have for its fields, if every name spells a text. -/
theorem Record.ofMembers?_eq_some_iff {α : Type} {r : Record α} (hnames : r.fields.names.Nodup)
    {d : Nat} {ms : List (List Char × List Char)} {a : α} :
    r.ofMembers? d ms = some a ↔
      ∃ slots, (∀ m ∈ ms, (spelled? m.1).isSome = true) ∧ r.fields.Get d ms slots ∧
        (r.fields.filled slots).toOption.map r.make = some a := by
  unfold ofMembers?
  simp only [Option.bind_eq_some_iff, Fields.takeAll_eq_some_iff hnames, and_assoc]

/-! ## Values from their texts -/

theorem ValueText.null_of_head {s : List Char} (h : ValueText ('n' :: s)) :
    'n' :: s = writeNull := by
  cases h with
  | null => rfl
  | numeral h => exact absurd h (not_numeral_cons (by decide) rfl)

/-- A value that may be absent is absent if the text is `null`. -/
theorem Codec.optional_valueOf? {α : Type} (c : Codec α) (d : Nat) {v : List Char}
    (hv : ValueText v) :
    c.optional.valueOf? d v =
      if v = writeNull then some none else (c.valueOf? d v).map some := by
  by_cases hnull : v = writeNull
  · rw [if_pos hnull, hnull]
    rfl
  · rw [if_neg hnull]
    unfold valueOf?
    simp only [Codec.optional, skipBlanks_value_alone hv]
    split
    · exact absurd hv.null_of_head hnull
    · cases c.read d v <;> rfl

/-- Where a value may be absent, `null` is read as well. -/
theorem Codec.exists_optional_iff {α : Type} (c : Codec α) (d : Nat) {v : List Char}
    (hv : ValueText v) :
    (∃ a, c.optional.valueOf? d v = some a) ↔ v = writeNull ∨ ∃ a, c.valueOf? d v = some a := by
  rw [Codec.optional_valueOf? _ _ hv]
  by_cases hnull : v = writeNull
  · rw [if_pos hnull]
    exact ⟨fun _ => .inl hnull, fun _ => ⟨none, rfl⟩⟩
  · rw [if_neg hnull, or_iff_right hnull]
    simp only [Option.map_eq_some_iff]
    exact ⟨fun ⟨_, a, ha, _⟩ => ⟨a, ha⟩, fun ⟨a, ha⟩ => ⟨some a, a, ha, rfl⟩⟩

/-- Where a record may be absent it is read as anywhere else. -/
theorem Record.optional_valueOf?_eq_some_iff {α : Type} {r : Record α} {d : Nat} {v : List Char}
    (hv : ValueText v) {a : α} :
    r.codec.optional.valueOf? d v = some (some a) ↔ r.codec.valueOf? d v = some a := by
  rw [Codec.optional_valueOf? _ _ hv]
  split
  · next hnull =>
    subst hnull
    exact ⟨nofun, nofun⟩
  · simp

/-- A value inside brackets that leave enough is read as a text that holds nothing else. -/
theorem Record.valueOf?_eq_ofText {α : Type} {r : Record α} {n : Nat} (hwhole : r.codec.Whole)
    (hshallow : r.codec.Shallow n) {d : Nat} (hd : n ≤ d) (hdeepest : n ≤ deepest) {v : List Char}
    (hv : ValueText v) :
    r.codec.valueOf? d v = (r.codec.ofText (String.ofList v)).toOption := by
  have hread : r.codec.read d v = r.codec.read deepest v :=
    congrFun (hshallow d deepest hd hdeepest) v
  unfold Codec.valueOf? Codec.ofText Codec.atStart
  rw [String.toList_ofList, hread]
  cases hresult : r.codec.read deepest v with
  | error f => rfl
  | ok p =>
    obtain ⟨a, rest⟩ := p
    have hpass := pass_value hv (r := []) trivial
    rw [List.append_nil] at hpass
    obtain rfl : rest = [] := Except.ok.inj ((hwhole hresult).symm.trans hpass)
    rfl

/-! ### Flags -/

theorem local_flag : Codec.flag.Local := by
  refine .of_start (fun d s => ?_) ?_
  · simp only [Codec.flag, skipBlanks_skipBlanks]
  · intro d s b r hs h
    simp only [Codec.flag, hs] at h
    split at h
    · obtain ⟨u, hword, h⟩ := bind_eq_ok.mp h
      cases h
      rw [eq_append_of_word hword]
      exact ⟨['t', 'r', 'u', 'e'], rfl, solid_cons rfl _, fun _ _ => rfl⟩
    · obtain ⟨u, hword, h⟩ := bind_eq_ok.mp h
      cases h
      rw [eq_append_of_word hword]
      exact ⟨['f', 'a', 'l', 's', 'e'], rfl, solid_cons rfl _, fun _ _ => rfl⟩
    · cases h

theorem whole_flag : Codec.flag.Whole := by
  intro d s b r h
  simp only [Codec.flag] at h
  split at h
  · next t ht =>
    obtain ⟨u, hword, h⟩ := bind_eq_ok.mp h
    cases h
    rw [pass, passValue, ht]
    exact hword
  · next t hf =>
    obtain ⟨u, hword, h⟩ := bind_eq_ok.mp h
    cases h
    rw [pass, passValue, hf]
    exact hword
  · cases h

theorem shallow_flag (n : Nat) : Codec.flag.Shallow n := fun _ _ _ _ => rfl

/-- A text is read as a flag exactly if it is the word for it. -/
theorem flag_valueOf?_eq_some_iff {d : Nat} {v : List Char} (hv : ValueText v) {b : Bool} :
    Codec.flag.valueOf? d v = some b ↔ v = writeFlag b := by
  rw [Codec.valueOf?_eq_some_iff local_flag whole_flag hv]
  constructor
  · intro hread
    simp only [Codec.flag, skipBlanks_value_alone hv] at hread
    split at hread
    · obtain ⟨u, hword, hread⟩ := bind_eq_ok.mp hread
      cases hread
      rw [eq_append_of_word hword]
      rfl
    · obtain ⟨u, hword, hread⟩ := bind_eq_ok.mp hread
      cases hread
      rw [eq_append_of_word hword]
      rfl
    · cases hread
  · rintro rfl
    cases b <;> rfl

/-! ### Blobs -/

theorem raw_valueOf? {d : Nat} {v : List Char} (hv : ValueText v) :
    Codec.raw.valueOf? d v = some ⟨String.ofList v⟩ := by
  have hpass := pass_value hv (r := []) trivial
  rw [List.append_nil] at hpass
  have hraw : Json.raw v = .ok (⟨String.ofList v⟩, []) := by
    unfold raw
    simp only [skipBlanks_value_alone hv, hpass, bind, Except.bind, List.length_nil, Nat.sub_zero,
      List.take_length]
  exact congrArg (·.toOption.map (·.1)) hraw

/-- The record whose only field is the blob under a name. -/
def blobUnder (name : String) : Record Raw where
  name := name
  types := [Raw]
  fields := .cons (.required name .raw) .nil
  make := fun (b, ()) => b
  parts b := (b, ())

/-- If one member alone has a name, then its value does not depend on how the text is divided into
    members. -/
theorem OnlyMember.unique {text : List Char} {ms ms' : List (List Char × List Char)}
    (h : ObjectText text ms) (h' : ObjectText text ms') (hnamed : WellNamed ms)
    (hnamed' : WellNamed ms') {name : String} {v v' : List Char} (only : OnlyMember name v ms)
    (only' : OnlyMember name v' ms') : v = v' := by
  have hread : ∀ {ns w}, ObjectText text ns → WellNamed ns → OnlyMember name w ns →
      ((blobUnder name).codec.ofText (String.ofList text)).toOption = some ⟨String.ofList w⟩ := by
    intro ns w hns hwell hw
    have hletters : ∀ m ∈ ns, Letters m.1 := fun m hm => hns.name hm
    have hlocal : (blobUnder name).fields.Local := ⟨local_raw, trivial⟩
    have hwhole : (blobUnder name).fields.Whole := ⟨whole_raw, trivial⟩
    have hnames : (blobUnder name).fields.names.Nodup := List.pairwise_singleton _ name
    have hget : (blobUnder name).fields.takeAll (deepest - 1) ns (blobUnder name).fields.slots =
        some (some ⟨String.ofList w⟩, ()) :=
      (Fields.takeAll_eq_some_iff hnames).mpr
        ⟨(wellNamed_iff hletters).mp hwell,
          ⟨w, (onlyMember_iff hletters).mp hw, raw_valueOf? (hw.value hns)⟩, trivial⟩
    rw [← String.toList_ofList (l := text)] at hns
    rw [Record.ofText_toOption hlocal hwhole hns, Record.ofMembers?, hget]
    rfl
  have hsame := (hread h hnamed only).symm.trans (hread h' hnamed' only')
  exact String.ofList_injective (congrArg Raw.text (Option.some.inj hsame))

end Switchboard.Json
