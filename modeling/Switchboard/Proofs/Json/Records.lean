import Switchboard.Json.Record
import Switchboard.Proofs.Json.Codecs
/-
  Records are read as they are written. The written members are those of the fields that are not
  left out, in the order of the fields; reading them fills the slots of these fields and no others
  (`leads_pairs`), and a field that is left out has the value it takes when absent. So a record is
  restored if each of its fields is (`Record.restores`).
-/
namespace Switchboard.Json

/-- A field that comes back: it is left out and has its value for absence, or is written and read
    back. -/
def Field.Restores {α : Type} (f : Field α) (d : Nat) (a : α) : Prop :=
  if f.omitted a then f.absent = some a else f.codec.Restores d a

/-- The value has been read for the field, or is the one it has when absent. -/
def Field.Reads {α : Type} (f : Field α) (a : α) : Prop := f.codec.Reads a ∨ f.absent = some a

namespace Fields

/-- The names of the fields. -/
def names {ts : List Type} : Fields ts → List String
  | .nil => []
  | .cons f fs => f.name :: fs.names

/-- The members that are written, by name. -/
def pairs {ts : List Type} : Fields ts → Tuple ts → List (String × List Char)
  | .nil, _ => []
  | .cons f fs, (a, as) =>
    if f.omitted a then fs.pairs as else (f.name, f.codec.write a) :: fs.pairs as

/-- The slots that the written members fill. -/
def slotsOf {ts : List Type} : Fields ts → Tuple ts → Slots ts
  | .nil, _ => ()
  | .cons f fs, (a, as) => (if f.omitted a then none else some a, fs.slotsOf as)

/-- Every field comes back. -/
def Restores (d : Nat) {ts : List Type} : Fields ts → Tuple ts → Prop
  | .nil, _ => True
  | .cons f fs, (a, as) => f.Restores d a ∧ fs.Restores d as

/-- Every field has been read or is absent. -/
def Reads {ts : List Type} : Fields ts → Tuple ts → Prop
  | .nil, _ => True
  | .cons f fs, (a, as) => f.Reads a ∧ fs.Reads as

theorem write_eq_pairs {ts : List Type} (fs : Fields ts) (as : Tuple ts) :
    fs.write as = (fs.pairs as).map writePair := by
  induction fs with
  | nil => rfl
  | cons f fs ih =>
    obtain ⟨a, as⟩ := as
    simp only [write, pairs]
    split
    · exact ih as
    · rw [List.map_cons, ← ih as]
      rfl

theorem mem_names_of_mem_pairs {ts : List Type} {fs : Fields ts} {as : Tuple ts}
    {m : String × List Char} (h : m ∈ fs.pairs as) : m.1 ∈ fs.names := by
  induction fs with
  | nil => cases h
  | cons f fs ih =>
    obtain ⟨a, as⟩ := as
    simp only [pairs] at h
    split at h
    · exact List.mem_cons_of_mem _ (ih h)
    · rcases List.mem_cons.mp h with rfl | h
      · exact List.mem_cons_self
      · exact List.mem_cons_of_mem _ (ih h)

/-! ## From a record to its text and back -/

/-- Members of later fields leave the slot of the first one alone. -/
theorem leads_cons {α : Type} {ts : List Type} {f : Field α} {fs : Fields ts} {d : Nat}
    {slots last : Slots ts} {ms : List (String × List Char)} (slot : Option α)
    (hnames : ∀ m ∈ ms, f.name ≠ m.1) (h : Leads (fun name => fs.member d name) slots ms last) :
    Leads (fun name => (Fields.cons f fs).member d name) (slot, slots) ms (slot, last) := by
  induction h with
  | nil slots => exact .nil _
  | @cons slots next last name value ms head tail ih =>
    refine .cons (fun rest hrest => ?_) (ih fun m hm => hnames m (List.mem_cons_of_mem _ hm))
    have hread := head rest hrest
    have hne : f.name ≠ name := hnames (name, value) List.mem_cons_self
    simp only [member, if_neg hne, hread, bind, Except.bind]

theorem leads_pairs {ts : List Type} {fs : Fields ts} {d : Nat} {as : Tuple ts}
    (hnames : fs.names.Nodup) (h : fs.Restores d as) :
    Leads (fun name => fs.member d name) fs.slots (fs.pairs as) (fs.slotsOf as) := by
  induction fs with
  | nil => exact .nil _
  | cons f fs ih =>
    obtain ⟨a, as⟩ := as
    obtain ⟨hfield, hfields⟩ := h
    obtain ⟨hname, hnames⟩ := List.nodup_cons.mp hnames
    have hrest := ih hnames hfields
    have hne : ∀ m ∈ fs.pairs as, f.name ≠ m.1 := by
      rintro m hm heq
      exact hname (heq ▸ mem_names_of_mem_pairs hm)
    simp only [Field.Restores] at hfield
    simp only [slots, pairs, slotsOf]
    split
    · exact leads_cons none hne hrest
    · next homitted =>
      rw [if_neg homitted] at hfield
      refine .cons (fun rest hrest => ?_) (leads_cons (some a) hne hrest)
      have hread := hfield rest hrest
      simp only [member, if_true, colon, List.cons_append,
        skipBlanks_cons (show isBlank ':' = false from rfl), hread, bind, Except.bind]

theorem filled_slotsOf {ts : List Type} {fs : Fields ts} {d : Nat} {as : Tuple ts}
    (h : fs.Restores d as) : fs.filled (fs.slotsOf as) = .ok as := by
  induction fs with
  | nil => rfl
  | cons f fs ih =>
    obtain ⟨a, as⟩ := as
    obtain ⟨hfield, hfields⟩ := h
    have hrest := ih hfields
    simp only [Field.Restores] at hfield
    have hslot : ((if f.omitted a then none else some a) <|> f.absent) = some a := by
      split
      · next homitted =>
        rw [if_pos homitted] at hfield
        exact hfield
      · rfl
    simp only [slotsOf, filled, hslot, hrest, bind, Except.bind]

/-! ## From a text to a record -/

/-- Every filled slot holds a value that has been read. -/
def SlotsRead {ts : List Type} : Fields ts → Slots ts → Prop
  | .nil, _ => True
  | .cons f fs, (slot, slots) => (∀ a ∈ slot, f.codec.Reads a) ∧ fs.SlotsRead slots

theorem slotsRead_slots {ts : List Type} (fs : Fields ts) : fs.SlotsRead fs.slots := by
  induction fs with
  | nil => trivial
  | cons f fs ih => exact ⟨nofun, ih⟩

theorem slotsRead_member {ts : List Type} {fs : Fields ts} {d : Nat} {name : String}
    {slots next : Slots ts} {s r : List Char} (h : fs.SlotsRead slots)
    (hread : fs.member d name slots s = .ok (next, r)) : fs.SlotsRead next := by
  induction fs generalizing s with
  | nil => trivial
  | cons f fs ih =>
    obtain ⟨slot, slots⟩ := slots
    obtain ⟨hslot, hslots⟩ := h
    simp only [member] at hread
    split at hread
    · cases slot with
      | some a => cases hread
      | none =>
        obtain ⟨t, -, hread⟩ := bind_eq_ok.mp hread
        obtain ⟨⟨a, u⟩, hvalue, hread⟩ := bind_eq_ok.mp hread
        cases hread
        refine ⟨?_, hslots⟩
        intro b hb
        cases hb
        exact ⟨_, _, _, hvalue⟩
    · obtain ⟨⟨others, u⟩, hmember, hread⟩ := bind_eq_ok.mp hread
      cases hread
      exact ⟨hslot, ih hslots hmember⟩

theorem reads_of_filled {ts : List Type} {fs : Fields ts} {slots : Slots ts} {as : Tuple ts}
    (h : fs.SlotsRead slots) (hfilled : fs.filled slots = .ok as) : fs.Reads as := by
  induction fs with
  | nil => trivial
  | cons f fs ih =>
    obtain ⟨slot, slots⟩ := slots
    obtain ⟨hslot, hslots⟩ := h
    simp only [filled] at hfilled
    split at hfilled
    · cases hfilled
    · next a ha =>
      obtain ⟨bs, hrest, hfilled⟩ := bind_eq_ok.mp hfilled
      cases hfilled
      refine ⟨?_, ih hslots hrest⟩
      cases slot with
      | some b =>
        cases ha
        exact .inl (hslot a rfl)
      | none => exact .inr ha

theorem reads_of_absents {ts : List Type} {fs : Fields ts} {index : Nat} {as : Tuple ts}
    (h : fs.absents index = .ok as) : fs.Reads as := by
  induction fs generalizing index with
  | nil => trivial
  | cons f fs ih =>
    simp only [absents] at h
    split at h
    · cases h
    · next a ha =>
      obtain ⟨bs, hrest, h⟩ := bind_eq_ok.mp h
      cases h
      exact ⟨.inr ha, ih hrest⟩

theorem reads_of_ofItems {ts : List Type} {fs : Fields ts} {short : Nat → Cause} {d index : Nat}
    {s r : List Char} {as : Tuple ts} (h : fs.ofItems short d index s = .ok (as, r)) :
    fs.Reads as := by
  induction fs generalizing index s with
  | nil => trivial
  | cons f fs ih =>
    simp only [ofItems] at h
    obtain ⟨step, -, h⟩ := bind_eq_ok.mp h
    cases step with
    | next s =>
      obtain ⟨⟨a, t⟩, hvalue, h⟩ := bind_eq_ok.mp h
      obtain ⟨⟨bs, u⟩, hrest, h⟩ := bind_eq_ok.mp h
      cases h
      exact ⟨.inl ⟨_, _, _, hvalue⟩, ih hrest⟩
    | done s =>
      dsimp only at h
      split at h
      · next bs habsents =>
        cases h
        exact reads_of_absents habsents
      · cases h

end Fields

/-! ## Records -/

namespace Record

variable {α : Type} {r : Record α} {d : Nat} {a : α}

theorem write_append (r : Record α) (a : α) (rest : List Char) :
    r.codec.write a ++ rest =
      '\x7b' :: (joined ((r.fields.pairs (r.parts a)).map writePair) ++ '\x7d' :: rest) := by
  simp [codec, writeObject, Fields.write_eq_pairs]

theorem opens_write (r : Record α) (a : α) {x : Char} (hx : '\x7b' ≠ x) :
    Opens x (r.codec.write a) := ⟨_, _, rfl, rfl, hx⟩

/-- A record is read as it is written if each of its fields is. -/
theorem restores (hnames : r.fields.names.Nodup) (hmake : r.make (r.parts a) = a)
    (h : r.fields.Restores d (r.parts a)) : r.codec.Restores (d + 1) a := by
  intro rest _
  have hmembers := members_writeObject (Fields.leads_pairs hnames h) rest
  have hfilled := Fields.filled_slotsOf h
  rw [write_append]
  simp only [codec, skipBlanks_cons (show isBlank '\x7b' = false from rfl), ofObject, hmembers,
    hfilled, hmake, bind, Except.bind]

/-- The fields of a record that has been read have been read or are absent. -/
theorem reads (h : r.codec.Reads a) : ∃ as, r.make as = a ∧ r.fields.Reads as := by
  obtain ⟨d, s, rest, hread⟩ := h
  simp only [codec] at hread
  split at hread
  · split at hread
    · cases hread
    · obtain ⟨⟨slots, t⟩, hmembers, hread⟩ := bind_eq_ok.mp hread
      dsimp only at hread
      split at hread
      · next as hfilled =>
        cases hread
        have hslots := of_members (P := r.fields.SlotsRead)
          (fun _ _ _ _ _ hstate hmember => Fields.slotsRead_member hstate hmember)
          (Fields.slotsRead_slots r.fields) hmembers
        exact ⟨as, rfl, Fields.reads_of_filled hslots hfilled⟩
      · cases hread
  · split at hread
    · cases hread
    · obtain ⟨⟨as, t⟩, hitems, hread⟩ := bind_eq_ok.mp hread
      cases hread
      exact ⟨as, rfl, Fields.reads_of_ofItems hitems⟩
  · cases hread

end Record

/-! ## Kinds of fields -/

namespace Field

variable {α : Type} {c : Codec α} {r : Record α} {d : Nat} {name : String}

theorem restores_textOrEmpty (t : String) : (textOrEmpty name).Restores d t := by
  unfold Field.Restores
  split
  · next h =>
    rw [String.isEmpty_iff.mp h]
    rfl
  · exact restores_text d t

theorem restores_listOrEmpty {as : List α}
    (h : ∀ a ∈ as, c.Restores d a ∧ Opens ']' (c.write a)) :
    (listOrEmpty name c).Restores (d + 1) as := by
  unfold Field.Restores
  split
  · next h =>
    rw [List.isEmpty_iff.mp h]
    rfl
  · exact restores_list h

theorem restores_texts (ts : List String) : (listOrEmpty name .text).Restores (d + 1) ts :=
  restores_listOrEmpty fun t _ => ⟨restores_text d t, opens_writeString (by decide) t⟩

theorem restores_records {as : List α} (h : ∀ a ∈ as, r.codec.Restores d a) :
    (listOrEmpty name r.codec).Restores (d + 1) as :=
  restores_listOrEmpty fun a ha => ⟨h a ha, r.opens_write a (by decide)⟩

theorem restores_optional {o : Option α}
    (h : ∀ a ∈ o, c.Restores d a ∧ Opens 'n' (c.write a)) : (optional name c).Restores d o := by
  cases o with
  | none => rfl
  | some a =>
    obtain ⟨hread, hopens⟩ := h a rfl
    exact hread.some hopens

theorem restores_nullable {o : Option α}
    (h : ∀ a ∈ o, c.Restores d a ∧ Opens 'n' (c.write a)) : (nullable name c).Restores d o := by
  cases o with
  | none => exact restores_none c d
  | some a =>
    obtain ⟨hread, hopens⟩ := h a rfl
    exact hread.some hopens

theorem restores_optionalText (o : Option String) : (optional name .text).Restores d o :=
  restores_optional fun t _ => ⟨restores_text d t, opens_writeString (by decide) t⟩

theorem restores_optionalRaw {o : Option Raw} (h : ∀ b ∈ o, b.Proper) :
    (optional name .raw).Restores d o :=
  restores_optional fun b hb => ⟨(h b hb).isJson.restores d, (h b hb).opens⟩

theorem restores_nullableRaw {o : Option Raw} (h : ∀ b ∈ o, b.Proper) :
    (nullable name .raw).Restores d o :=
  restores_nullable fun b hb => ⟨(h b hb).isJson.restores d, (h b hb).opens⟩

theorem restores_optionalRecord {o : Option α} (h : ∀ a ∈ o, r.codec.Restores d a) :
    (optional name r.codec).Restores d o :=
  restores_optional fun a ha => ⟨h a ha, r.opens_write a (by decide)⟩

theorem Reads.of_optional {o : Option α} (h : (optional name c).Reads o) :
    ∀ a ∈ o, c.optional.Reads (some a) := by
  rintro a rfl
  rcases h with h | h
  · exact h
  · cases h

theorem Reads.of_listOrEmpty {as : List α} (h : (listOrEmpty name c).Reads as) :
    ∀ a ∈ as, c.Reads a := by
  rcases h with h | h
  · exact reads_of_reads_list h
  · cases h
    nofun

theorem Reads.of_optional_some {o : Option α} (h : (optional name c).Reads o) :
    ∀ a ∈ o, c.Reads a := fun a ha => reads_of_reads_some (h.of_optional a ha)

/-- Whether an absent blob is written makes no difference for one that has been read. -/
theorem Reads.proper {o : Option Raw}
    (h : (optional name Codec.raw).Reads o ∨ (nullable name Codec.raw).Reads o) :
    ∀ b ∈ o, b.Proper := by
  have hoptional : (optional name Codec.raw).Reads o := h.elim id id
  exact fun b hb => proper_of_reads_some (hoptional.of_optional b hb)

end Field

/-! ## Optional texts -/

/-- Where the empty text counts as absent, no text is empty. -/
theorem filter_ne_empty (o : Option String) : o.filter (· ≠ "") ≠ some "" := by
  intro h
  obtain ⟨-, hne⟩ := Option.filter_eq_some_iff.mp h
  exact of_decide_eq_true hne rfl

theorem filter_eq_self {o : Option String} (h : o ≠ some "") : o.filter (· ≠ "") = o := by
  cases o with
  | none => rfl
  | some t =>
    have ht : t ≠ "" := fun ht => h (congrArg some ht)
    exact if_pos (decide_eq_true ht)

end Switchboard.Json
