import Switchboard.Proofs.Json.Blobs
/-
  Codecs read what they have written. `Codec.Restores` says so of one value, and is passed on from
  the values of a type to optional values and lists of them; `Codec.Reads` says that a value has
  been read, and what is known of values that have been read is passed on in the other direction.
  The members of an object are followed one by one, by what each does to what has been read so far.
-/
namespace Switchboard.Json

variable {α : Type} {c : Codec α} {d : Nat}

/-- What has been written of the value is read as the value; `d` brackets may be opened. -/
def Codec.Restores (c : Codec α) (d : Nat) (a : α) : Prop := Takes (c.read d) (c.write a) a

/-- The value has been read from some text. -/
def Codec.Reads (c : Codec α) (a : α) : Prop := ∃ d s r, c.read d s = .ok (a, r)

theorem Opens.skipBlanks {x : Char} {p : List Char} (h : Opens x p) (s : List Char) :
    skipBlanks (p ++ s) = p ++ s := by
  obtain ⟨c, r, rfl, hc, -⟩ := h
  exact skipBlanks_cons hc _

/-! ## Whole texts -/

theorem Codec.Restores.atStart {a : α} (h : c.Restores deepest a) :
    c.atStart (c.toText a).toList = .ok (a, []) := by
  have hread := h [] trivial
  rw [List.append_nil] at hread
  rw [Codec.atStart, Codec.toText, String.toList_ofList, hread]

theorem Codec.Restores.ofText {a : α} (h : c.Restores deepest a) :
    c.ofText (c.toText a) = .ok a := by
  simp only [Codec.ofText, h.atStart, atEnd, skipBlanks, List.dropWhile_nil, bind, Except.bind]

theorem read_of_atStart {text r : List Char} {a : α} (h : c.atStart text = .ok (a, r)) :
    c.read deepest text = .ok (a, r) := by
  unfold Codec.atStart at h
  split at h
  · next p hread =>
    cases h
    exact hread
  · cases h

/-- A text is read from its start, and nothing but blanks follows. -/
theorem read_of_ofText {text : String} {a : α} (h : c.ofText text = .ok a) :
    ∃ r, c.read deepest text.toList = .ok (a, r) ∧ skipBlanks r = [] := by
  obtain ⟨⟨b, r⟩, hstart, h⟩ := bind_eq_ok.mp h
  obtain ⟨u, hend, h⟩ := bind_eq_ok.mp h
  cases h
  refine ⟨r, read_of_atStart hstart, ?_⟩
  unfold atEnd at hend
  split at hend
  · assumption
  · cases hend

theorem reads_of_atStart {text r : List Char} {a : α} (h : c.atStart text = .ok (a, r)) :
    c.Reads a :=
  ⟨_, _, _, read_of_atStart h⟩

theorem reads_of_ofText {text : String} {a : α} (h : c.ofText text = .ok a) : c.Reads a := by
  obtain ⟨r, hread, -⟩ := read_of_ofText h
  exact ⟨_, _, _, hread⟩

/-! ## Strings, blobs and absent values -/

theorem opens_writeString {x : Char} (hx : '"' ≠ x) (t : String) : Opens x (writeString t) :=
  ⟨_, _, rfl, rfl, hx⟩

theorem writeString_append (t : String) (s : List Char) :
    writeString t ++ s = '"' :: (t.toList.flatMap writeChar ++ '"' :: s) := by
  simp [writeString]

theorem restores_text (d : Nat) (t : String) : Codec.text.Restores d t := by
  intro rest _
  simp only [Codec.text, writeString_append, skipBlanks_cons (show isBlank '"' = false from rfl)]
  exact stringTail_written t rest

theorem Raw.IsJson.restores {b : Raw} (h : b.IsJson) (d : Nat) : Codec.raw.Restores d b := h.takes

theorem isJson_of_reads {b : Raw} (h : Codec.raw.Reads b) : b.IsJson :=
  let ⟨_, _, _, hread⟩ := h
  isJson_of_raw hread

theorem restores_none (c : Codec α) (d : Nat) : c.optional.Restores d none := fun _ _ => rfl

theorem Codec.Restores.some {a : α} (h : c.Restores d a) (hopens : Opens 'n' (c.write a)) :
    c.optional.Restores d (some a) := by
  intro rest hrest
  have hskip := hopens.skipBlanks rest
  obtain ⟨x, t, hx, -, hne⟩ := hopens
  have hread := h rest hrest
  simp only [Codec.optional, hskip]
  split
  · next heq =>
    rw [hx] at heq
    exact absurd (List.cons.inj heq).1 hne
  · rw [hread]
    rfl

/-- A value that is not absent does not start like `null`. -/
theorem read_of_optional_some {s r : List Char} {a : α}
    (h : c.optional.read d s = .ok (some a, r)) :
    c.read d (skipBlanks s) = .ok (a, r) ∧ ∀ t, skipBlanks s ≠ 'n' :: t := by
  simp only [Codec.optional] at h
  split at h
  · obtain ⟨_, -, h⟩ := bind_eq_ok.mp h
    cases h
  · next hne =>
    obtain ⟨⟨b, r'⟩, hinner, h⟩ := bind_eq_ok.mp h
    cases h
    exact ⟨hinner, fun t => hne t⟩

theorem reads_of_reads_some {a : α} (h : c.optional.Reads (some a)) : c.Reads a :=
  let ⟨_, _, _, hread⟩ := h
  ⟨_, _, _, (read_of_optional_some hread).1⟩

/-- The word `null` is no blob where a blob may be absent. -/
theorem proper_of_reads_some {b : Raw} (h : Codec.raw.optional.Reads (some b)) : b.Proper := by
  refine ⟨isJson_of_reads (reads_of_reads_some h), fun hnull => ?_⟩
  obtain ⟨d, s, r, hread⟩ := h
  obtain ⟨hinner, hne⟩ := read_of_optional_some hread
  have hskip := (eq_append_of_raw hinner).1
  rw [skipBlanks_skipBlanks, hnull] at hskip
  exact hne _ hskip

/-! ## Lists -/

theorem joined_cons (p : List Char) (ps : List (List Char)) :
    joined (p :: ps) = p ++ ps.flatMap (',' :: ·) := by
  induction ps generalizing p with
  | nil => simp [joined]
  | cons q ps ih => rw [joined, ih, List.flatMap_cons]; rfl

/-- What follows an item or a member: a comma or the bracket, either of which stops it. -/
theorem stops_rest (close : Char) (hclose : inNumber close = false) (ps : List (List Char))
    (r : List Char) : Stops (ps.flatMap (',' :: ·) ++ close :: r) := by
  cases ps with
  | nil => exact hclose
  | cons p ps => exact (rfl : inNumber ',' = false)

theorem nextItem_of_item {s t : List Char} {c : Char} (hitem : skipBlanks s = c :: t)
    (hne : c ≠ ']') : nextItem true s = .ok (.next (c :: t)) := by
  rw [nextItem, hitem]
  split
  · next heq => cases heq
  · next heq => exact absurd (List.cons.inj heq).1 hne
  · next heq => rw [if_pos rfl, heq]

theorem nextItem_of_comma {s r t : List Char} {c : Char} (hcomma : skipBlanks s = ',' :: r)
    (hitem : skipBlanks r = c :: t) (hne : c ≠ ']') :
    nextItem false s = .ok (.next (c :: t)) := by
  rw [nextItem, hcomma]
  split
  · next heq => cases heq
  · next heq => cases heq
  · next heq =>
    obtain ⟨rfl, rfl⟩ := List.cons.inj heq
    rw [if_neg Bool.false_ne_true, if_pos rfl, hitem]
    split
    · next heq => cases heq
    · next heq => exact absurd (List.cons.inj heq).1 hne
    · rfl

theorem nextItem_first {p : List Char} (h : Opens ']' p) (s : List Char) :
    nextItem true (p ++ s) = .ok (.next (p ++ s)) := by
  have hskip := h.skipBlanks s
  obtain ⟨x, t, rfl, -, hne⟩ := h
  exact nextItem_of_item hskip hne

theorem nextItem_comma {p : List Char} (h : Opens ']' p) (s : List Char) :
    nextItem false (',' :: p ++ s) = .ok (.next (p ++ s)) := by
  have hskip := h.skipBlanks s
  obtain ⟨x, t, rfl, -, hne⟩ := h
  exact nextItem_of_comma (skipBlanks_cons (show isBlank ',' = false from rfl) _) hskip hne

section

variable {item : Reader α} {write : α → List Char}

theorem items_rest {as : List α} (h : ∀ a ∈ as, Takes item (write a) a ∧ Opens ']' (write a))
    {fuel : Nat} (hfuel : as.length < fuel) (r : List Char) :
    items item fuel false ((as.map write).flatMap (',' :: ·) ++ ']' :: r) = .ok (as, r) := by
  induction as generalizing fuel with
  | nil =>
    obtain ⟨fuel, rfl⟩ := Nat.exists_eq_add_one_of_ne_zero (Nat.ne_zero_of_lt hfuel)
    rfl
  | cons a as ih =>
    obtain ⟨fuel, rfl⟩ := Nat.exists_eq_add_one_of_ne_zero (Nat.ne_zero_of_lt hfuel)
    obtain ⟨htakes, hopens⟩ := h a List.mem_cons_self
    have hrest := ih (fun b hb => h b (List.mem_cons_of_mem a hb)) (Nat.lt_of_succ_lt_succ hfuel)
    have hitem := htakes _ (stops_rest ']' rfl (as.map write) r)
    rw [List.map_cons, List.flatMap_cons, List.append_assoc, items, nextItem_comma hopens]
    simp only [bind, Except.bind, hitem, hrest]

/-- The items of a list are read one after the other. -/
theorem items_written {as : List α} (h : ∀ a ∈ as, Takes item (write a) a ∧ Opens ']' (write a))
    {fuel : Nat} (hfuel : as.length < fuel) (r : List Char) :
    items item fuel true (joined (as.map write) ++ ']' :: r) = .ok (as, r) := by
  obtain ⟨fuel, rfl⟩ := Nat.exists_eq_add_one_of_ne_zero (Nat.ne_zero_of_lt hfuel)
  cases as with
  | nil => rfl
  | cons a as =>
    obtain ⟨htakes, hopens⟩ := h a List.mem_cons_self
    have hrest := items_rest (fun b hb => h b (List.mem_cons_of_mem a hb))
      (Nat.lt_of_succ_lt_succ hfuel) r
    have hitem := htakes _ (stops_rest ']' rfl (as.map write) r)
    rw [List.map_cons, joined_cons, List.append_assoc, items, nextItem_first hopens]
    simp only [bind, Except.bind, hitem, hrest]

/-- Every piece after the first has a comma before it. -/
theorem length_le_flatMap_comma (ps : List (List Char)) :
    ps.length ≤ (ps.flatMap (',' :: ·)).length := by
  induction ps with
  | nil => exact Nat.le_refl _
  | cons p ps ih =>
    rw [List.flatMap_cons, List.length_append, List.length_cons, List.length_cons]
    omega

theorem length_le_joined (ps : List (List Char)) (h : ∀ p ∈ ps, p ≠ []) :
    ps.length ≤ (joined ps).length := by
  cases ps with
  | nil => exact Nat.le_refl _
  | cons p ps =>
    have := List.length_pos_iff.mpr (h p List.mem_cons_self)
    have := length_le_flatMap_comma ps
    rw [joined_cons, List.length_append, List.length_cons]
    omega

theorem Opens.ne_nil {x : Char} {p : List Char} (h : Opens x p) : p ≠ [] := by
  obtain ⟨c, r, rfl, -⟩ := h
  exact List.cons_ne_nil c r

/-- The items of a list, after its bracket, have all the fuel they need. -/
theorem items_writeList {as : List α}
    (h : ∀ a ∈ as, Takes item (write a) a ∧ Opens ']' (write a)) (r : List Char) :
    items item (joined (as.map write) ++ ']' :: r).length true (joined (as.map write) ++ ']' :: r) =
      .ok (as, r) := by
  apply items_written h
  have hlength := length_le_joined (as.map write) (by
    intro p hp
    obtain ⟨a, ha, rfl⟩ := List.mem_map.mp hp
    exact (h a ha).2.ne_nil)
  rw [List.length_map] at hlength
  rw [List.length_append, List.length_cons]
  omega

end

theorem restores_list {as : List α}
    (h : ∀ a ∈ as, c.Restores d a ∧ Opens ']' (c.write a)) : c.list.Restores (d + 1) as := by
  intro rest _
  have hwrite : writeList (as.map c.write) ++ rest =
      '[' :: (joined (as.map c.write) ++ ']' :: rest) := by
    simp [writeList]
  simp only [Codec.list, hwrite, skipBlanks_cons (show isBlank '[' = false from rfl)]
  exact items_writeList h rest

/-- What holds of every item that is read holds of the items of a list. -/
theorem forall_of_items {item : Reader α} {P : α → Prop}
    (h : ∀ s a r, item s = .ok (a, r) → P a) {fuel : Nat} {first : Bool} {s r : List Char}
    {as : List α} (hread : items item fuel first s = .ok (as, r)) : ∀ a ∈ as, P a := by
  induction fuel generalizing first s as with
  | zero => cases hread
  | succ fuel ih =>
    rw [items] at hread
    obtain ⟨step, -, hread⟩ := bind_eq_ok.mp hread
    cases step with
    | done s =>
      cases hread
      nofun
    | next s =>
      obtain ⟨⟨a, s'⟩, hitem, hread⟩ := bind_eq_ok.mp hread
      obtain ⟨⟨bs, s''⟩, hitems, hread⟩ := bind_eq_ok.mp hread
      cases hread
      intro b hb
      rcases List.mem_cons.mp hb with rfl | hb
      · exact h _ _ _ hitem
      · exact ih hitems b hb

theorem reads_of_reads_list {as : List α} (h : c.list.Reads as) : ∀ a ∈ as, c.Reads a := by
  obtain ⟨d, s, r, hread⟩ := h
  simp only [Codec.list] at hread
  split at hread
  · split at hread
    · cases hread
    · exact forall_of_items (fun s a r h => ⟨_, s, r, h⟩) hread
  · cases hread

/-! ## Members of objects -/

/-- The members, each a name and a written value, lead from one state to another: each is taken as
    `member` says. -/
inductive Leads {σ : Type} (member : String → σ → Reader σ) :
    σ → List (String × List Char) → σ → Prop
  | nil (state : σ) : Leads member state [] state
  | cons {state next last : σ} {name : String} {value : List Char}
      {ms : List (String × List Char)} (head : Takes (member name state) (':' :: value) next)
      (tail : Leads member next ms last) : Leads member state ((name, value) :: ms) last

/-- The text of a member. -/
def writePair (m : String × List Char) : List Char := writeMember m.1 m.2

theorem writePair_append (m : String × List Char) (s : List Char) :
    writePair m ++ s = '"' :: (m.1.toList.flatMap writeChar ++ '"' :: (':' :: m.2 ++ s)) := by
  rw [writePair, writeMember, List.append_assoc, writeString_append]

theorem nextName_first (s : List Char) : nextName true ('"' :: s) = .ok (.next s) := rfl

theorem nextName_comma (s : List Char) : nextName false (',' :: '"' :: s) = .ok (.next s) := rfl

section

variable {σ : Type} {member : String → σ → Reader σ} {state last : σ}
  {ms : List (String × List Char)}

theorem members_rest (h : Leads member state ms last) {fuel : Nat} (hfuel : ms.length < fuel)
    (r : List Char) :
    members member fuel false state ((ms.map writePair).flatMap (',' :: ·) ++ '\x7d' :: r) =
      .ok (last, r) := by
  induction h generalizing fuel with
  | nil state =>
    obtain ⟨fuel, rfl⟩ := Nat.exists_eq_add_one_of_ne_zero (Nat.ne_zero_of_lt hfuel)
    rfl
  | @cons state next last name value ms head tail ih =>
    obtain ⟨fuel, rfl⟩ := Nat.exists_eq_add_one_of_ne_zero (Nat.ne_zero_of_lt hfuel)
    have hrest := ih (Nat.lt_of_succ_lt_succ hfuel)
    have hmember := head _ (stops_rest '\x7d' rfl (ms.map writePair) r)
    rw [List.map_cons, List.flatMap_cons, List.append_assoc, List.cons_append, writePair_append,
      members, nextName_comma]
    simp only [bind, Except.bind, stringTail_written, hmember, hrest]

/-- The members of an object are read one after the other. -/
theorem members_written (h : Leads member state ms last) {fuel : Nat} (hfuel : ms.length < fuel)
    (r : List Char) :
    members member fuel true state (joined (ms.map writePair) ++ '\x7d' :: r) = .ok (last, r) := by
  obtain ⟨fuel, rfl⟩ := Nat.exists_eq_add_one_of_ne_zero (Nat.ne_zero_of_lt hfuel)
  cases h with
  | nil => rfl
  | @cons _ next _ name value ms head tail =>
    have hrest := members_rest tail (Nat.lt_of_succ_lt_succ hfuel) r
    have hmember := head _ (stops_rest '\x7d' rfl (ms.map writePair) r)
    rw [List.map_cons, joined_cons, List.append_assoc, writePair_append, members, nextName_first]
    simp only [bind, Except.bind, stringTail_written, hmember, hrest]

/-- The members of an object, after its brace, have all the fuel they need. -/
theorem members_writeObject (h : Leads member state ms last) (r : List Char) :
    members member (joined (ms.map writePair) ++ '\x7d' :: r).length true state
      (joined (ms.map writePair) ++ '\x7d' :: r) = .ok (last, r) := by
  apply members_written h
  have hlength := length_le_joined (ms.map writePair) (by
    intro p hp
    obtain ⟨m, -, rfl⟩ := List.mem_map.mp hp
    exact List.cons_ne_nil _ _)
  rw [List.length_map] at hlength
  rw [List.length_append, List.length_cons]
  omega

/-- What every member preserves holds once the object has been read. -/
theorem of_members {P : σ → Prop}
    (h : ∀ name state s next r, P state → member name state s = .ok (next, r) → P next)
    {fuel : Nat} {first : Bool} {s r : List Char} (hstate : P state)
    (hread : members member fuel first state s = .ok (last, r)) : P last := by
  induction fuel generalizing first state s with
  | zero => cases hread
  | succ fuel ih =>
    rw [members] at hread
    obtain ⟨step, -, hread⟩ := bind_eq_ok.mp hread
    cases step with
    | done s =>
      cases hread
      exact hstate
    | next s =>
      obtain ⟨⟨name, s'⟩, -, hread⟩ := bind_eq_ok.mp hread
      obtain ⟨⟨next, s''⟩, hmember, hread⟩ := bind_eq_ok.mp hread
      exact ih (h _ _ _ _ _ hstate hmember) hread

end

end Switchboard.Json
