import Mathlib.Data.List.TakeWhile
import Switchboard.Proofs.Json.Grammar
/-
  Codecs read locally. What a codec takes for a value depends on the piece of the text that it
  takes, not on what follows, as long as that stops the piece (`Codec.Local`). This is passed on
  from the values of a type to optional values, lists and records; on the way, a list or an object
  is a run of steps each of which takes its own piece (`takes_items`, `takes_members`). With the
  grammar it gives that a value stands on its own: it is read inside a text as it is read alone
  (`Codec.Local.read_eq_ok_iff`).
-/
namespace Switchboard.Json

/-! ## Pieces -/

/-- More than blanks. -/
def Solid (p : List Char) : Prop := ∃ c ∈ p, isBlank c = false

/-- The reader takes a piece off the front of the text that is more than blanks, and would take it
    for the same value before any other rest that stops it. -/
def TakesOff {α : Type} (reader : Reader α) (s : List Char) (a : α) (r : List Char) : Prop :=
  ∃ p, s = p ++ r ∧ Solid p ∧ Takes reader p a

/-- A codec for which blanks before a value make no difference, nor does what follows it. -/
structure Codec.Local {α : Type} (c : Codec α) : Prop where
  skips : ∀ d s, c.read d (skipBlanks s) = c.read d s
  takes : ∀ ⦃d s a r⦄, c.read d s = .ok (a, r) → TakesOff (c.read d) s a r

theorem solid_cons {c : Char} (h : isBlank c = false) (s : List Char) : Solid (c :: s) :=
  ⟨c, List.mem_cons_self, h⟩

theorem Solid.append_left {p : List Char} (h : Solid p) (b : List Char) : Solid (b ++ p) :=
  let ⟨c, hc, hblank⟩ := h
  ⟨c, List.mem_append_right b hc, hblank⟩

theorem Solid.append_right {p : List Char} (h : Solid p) (q : List Char) : Solid (p ++ q) :=
  let ⟨c, hc, hblank⟩ := h
  ⟨c, List.mem_append_left q hc, hblank⟩

theorem Solid.ne_nil {p : List Char} (h : Solid p) : p ≠ [] :=
  let ⟨_, hc, _⟩ := h
  List.ne_nil_of_mem hc

theorem Solid.skipBlanks_append {p : List Char} (h : Solid p) (s : List Char) :
    ∃ c q, skipBlanks p = c :: q ∧ skipBlanks (p ++ s) = c :: (q ++ s) := by
  have hne : skipBlanks p ≠ [] := by
    obtain ⟨c, hc, hblank⟩ := h
    intro hnil
    have hall := List.dropWhile_eq_nil_iff.mp hnil c hc
    rw [hblank] at hall
    cases hall
  obtain ⟨c, q, hq⟩ := List.exists_cons_of_ne_nil hne
  obtain ⟨b, rfl, hb⟩ := skipBlanks_eq_cons hq
  exact ⟨c, q, hq, by rw [List.append_assoc, List.cons_append, hb]⟩

section

variable {α : Type} {c : Codec α}

/-- It is enough to look at texts that do not start with a blank. -/
theorem Codec.Local.of_start (skips : ∀ d s, c.read d (skipBlanks s) = c.read d s)
    (h : ∀ ⦃d s a r⦄, skipBlanks s = s → c.read d s = .ok (a, r) → TakesOff (c.read d) s a r) :
    c.Local := by
  refine ⟨skips, fun d s a r hread => ?_⟩
  rw [← skips] at hread
  obtain ⟨b, hs, hb⟩ := skipBlanks_split s
  obtain ⟨p, hp, hsolid, htakes⟩ := h (skipBlanks_skipBlanks s) hread
  refine ⟨b ++ p, by rw [List.append_assoc, ← hp, ← hs], hsolid.append_left b, fun r' hr' => ?_⟩
  rw [List.append_assoc, ← skips, skipBlanks_blanks hb, skips]
  exact htakes r' hr'

/-! ## Strings, blobs and absent values -/

theorem local_text : Codec.text.Local := by
  refine .of_start (fun d s => ?_) ?_
  · simp only [Codec.text, skipBlanks_skipBlanks]
  · intro d s t r hs h
    simp only [Codec.text, hs] at h
    split at h
    · obtain ⟨p, rfl, hp⟩ := spells_of_stringTail h
      refine ⟨'"' :: (p ++ ['"']), by simp, solid_cons rfl _, fun r' _ => ?_⟩
      rw [List.cons_append, List.append_assoc]
      simp only [Codec.text, skipBlanks_cons (show isBlank '"' = false from rfl)]
      exact stringTail_spells hp r'
    · cases h

theorem local_raw : Codec.raw.Local := by
  refine .of_start (fun _ s => raw_skipBlanks s) ?_
  intro d s b r hs h
  obtain ⟨hsplit, htakes⟩ := eq_append_of_raw h
  rw [hs] at hsplit
  refine ⟨b.text.toList, hsplit, ?_, htakes⟩
  have halone : Json.raw (b.text.toList ++ []) = .ok (b, []) := htakes [] trivial
  rw [List.append_nil] at halone
  obtain ⟨u, hpass, -⟩ := bind_eq_ok.mp halone
  obtain ⟨x, t, hx⟩ := List.exists_cons_of_length_pos (Nat.zero_lt_of_lt (length_of_pass hpass))
  obtain ⟨p, hp, -⟩ := skipBlanks_eq_cons hx
  rw [hp]
  exact (solid_cons (isBlank_of_skipBlanks hx) t).append_left p

theorem Codec.Local.optional (h : c.Local) : c.optional.Local := by
  refine .of_start (fun d s => ?_) ?_
  · simp only [Codec.optional, skipBlanks_skipBlanks]
  · intro d s o r hs hread
    simp only [Codec.optional, hs] at hread
    split at hread
    · obtain ⟨v, hword, hread⟩ := bind_eq_ok.mp hread
      cases hread
      rw [eq_append_of_word hword]
      exact ⟨['n', 'u', 'l', 'l'], rfl, solid_cons rfl _, fun _ _ => rfl⟩
    · next hne =>
      obtain ⟨⟨a, v⟩, hvalue, hread⟩ := bind_eq_ok.mp hread
      cases hread
      obtain ⟨p, hp, hsolid, htakes⟩ := h.takes hvalue
      refine ⟨p, hp, hsolid, fun r' hr' => ?_⟩
      obtain ⟨x, q, hq, hbefore⟩ := hsolid.skipBlanks_append v
      obtain ⟨y, q', hq', hafter⟩ := hsolid.skipBlanks_append r'
      obtain ⟨rfl, rfl⟩ := List.cons.inj (hq.symm.trans hq')
      have hvalue' := htakes r' hr'
      rw [← h.skips, hafter] at hvalue'
      simp only [Codec.optional, hafter]
      split
      · next heq =>
        rw [← hp, hs, (List.cons.inj heq).1] at hbefore
        exact absurd hbefore (hne _)
      · simp only [hvalue', bind, Except.bind]

/-! ## Lists -/

/-- The end of a list is a piece of its own. -/
theorem takes_listEnd {first : Bool} {s r : List Char} (h : nextItem first s = .ok (.done r)) :
    ∃ l, s = l ++ r ∧ Solid l ∧ Stops l ∧ ∀ r', nextItem first (l ++ r') = .ok (.done r') := by
  obtain ⟨b, rfl, hb⟩ := skipBlanks_eq_cons (nextItem_done h)
  refine ⟨b ++ [']'], by simp, (solid_cons rfl []).append_left b, ?_, fun r' => ?_⟩
  · apply Stops.of_skipBlanks
    rw [hb]
    rfl
  · simp only [List.append_assoc, List.cons_append, List.nil_append, nextItem, hb]

/-- What stands before an item is a piece of its own, and stops the item before. -/
theorem takes_itemStart {first : Bool} {s v : List Char} (h : nextItem first s = .ok (.next v)) :
    ∃ l x w, s = l ++ v ∧ v = x :: w ∧ (first = false → l ≠ [] ∧ Stops l) ∧
      ∀ w', nextItem first (l ++ x :: w') = .ok (.next (x :: w')) := by
  cases first with
  | true =>
    obtain ⟨x, w, hskip, hne, rfl⟩ := nextItem_next_first h
    obtain ⟨b, rfl, hb⟩ := skipBlanks_eq_cons hskip
    exact ⟨b, x, w, rfl, rfl, nofun, fun w' => nextItem_of_item (hb w') hne⟩
  | false =>
    obtain ⟨u, x, w, hcomma, hskip, hne, rfl⟩ := nextItem_next h
    obtain ⟨b, rfl, hb⟩ := skipBlanks_eq_cons hcomma
    obtain ⟨b', rfl, hb'⟩ := skipBlanks_eq_cons hskip
    refine ⟨b ++ ',' :: b', x, w, by simp [hskip], hskip, fun _ => ⟨by simp, ?_⟩, fun w' => ?_⟩
    · apply Stops.of_skipBlanks
      rw [hb]
      rfl
    · rw [List.append_assoc, List.cons_append]
      exact nextItem_of_comma (hb _) (hb' w') hne

/-- An item is a piece together with what stands before it. -/
theorem takes_item {item : Reader α} {first : Bool} {s v u : List Char} {a : α}
    (hstep : nextItem first s = .ok (.next v)) (hvalue : TakesOff item v a u) :
    ∃ p, s = p ++ u ∧ Solid p ∧ (first = false → Stops p) ∧
      ∀ r, Stops r → ∃ v, nextItem first (p ++ r) = .ok (.next v) ∧ item v = .ok (a, r) := by
  obtain ⟨l, x, w, rfl, hv, hstops, hl⟩ := takes_itemStart hstep
  obtain ⟨p, rfl, hsolid, htakes⟩ := hvalue
  obtain ⟨y, p, rfl⟩ := List.exists_cons_of_ne_nil hsolid.ne_nil
  obtain ⟨rfl, -⟩ := List.cons.inj hv
  refine ⟨l ++ y :: p, by simp, hsolid.append_left l,
    fun hfirst => (hstops hfirst).2.append (hstops hfirst).1 _, fun r hr => ?_⟩
  refine ⟨y :: (p ++ r), ?_, htakes r hr⟩
  rw [List.append_assoc, List.cons_append, hl]

/-- Items that are each taken off as a piece are taken off together. -/
theorem takes_items {item : Reader α}
    (hitem : ∀ ⦃s a r⦄, item s = .ok (a, r) → TakesOff item s a r) {fuel : Nat} {first : Bool}
    {s r : List Char} {as : List α} (h : items item fuel first s = .ok (as, r)) :
    ∃ p, s = p ++ r ∧ Solid p ∧ (first = false → Stops p) ∧
      ∀ m, p.length ≤ m → Takes (items item m first) p as := by
  induction fuel generalizing first s as with
  | zero => cases h
  | succ fuel ih =>
    rw [items] at h
    obtain ⟨step, hstep, h⟩ := bind_eq_ok.mp h
    cases step with
    | done t =>
      cases h
      obtain ⟨l, hs, hsolid, hstops, hl⟩ := takes_listEnd hstep
      refine ⟨l, hs, hsolid, fun _ => hstops, fun m hm r' _ => ?_⟩
      have := List.length_pos_iff.mpr hsolid.ne_nil
      obtain ⟨m, rfl⟩ := Nat.exists_eq_add_one_of_ne_zero (n := m) (by omega)
      rw [items, hl]
      rfl
    | next v =>
      obtain ⟨⟨a, u⟩, hvalue, h⟩ := bind_eq_ok.mp h
      obtain ⟨⟨bs, t⟩, hrest, h⟩ := bind_eq_ok.mp h
      cases h
      obtain ⟨p, rfl, hsolid, hstops, hp⟩ := takes_item hstep (hitem hvalue)
      obtain ⟨q, rfl, hq, hqstops, hqtakes⟩ := ih hrest
      have := List.length_pos_iff.mpr hsolid.ne_nil
      refine ⟨p ++ q, by simp, hsolid.append_right q,
        fun hfirst => (hstops hfirst).append hsolid.ne_nil q, fun m hm r' hr' => ?_⟩
      rw [List.length_append] at hm
      obtain ⟨m, rfl⟩ := Nat.exists_eq_add_one_of_ne_zero (n := m) (by omega)
      obtain ⟨v, hnext, hhead⟩ := hp (q ++ r') ((hqstops rfl).append hq.ne_nil r')
      have hitems := hqtakes m (by omega) r' hr'
      rw [List.append_assoc, items, hnext]
      simp only [bind, Except.bind, hhead, hitems]

theorem Codec.Local.list (h : c.Local) : c.list.Local := by
  refine .of_start (fun d s => ?_) ?_
  · simp only [Codec.list, skipBlanks_skipBlanks]
  · intro d s as r hs hread
    simp only [Codec.list, hs] at hread
    split at hread
    · split at hread
      · cases hread
      · obtain ⟨p, rfl, -, -, htakes⟩ := takes_items (fun _ _ _ hitem => h.takes hitem) hread
        refine ⟨'[' :: p, rfl, solid_cons rfl p, fun r' hr' => ?_⟩
        simp only [List.cons_append, Codec.list,
          skipBlanks_cons (show isBlank '[' = false from rfl)]
        exact htakes _ (by rw [List.length_append]; omega) r' hr'
    · cases hread

end

/-! ## Objects -/

/-- The end of an object is a piece of its own. -/
theorem takes_objectEnd {first : Bool} {s r : List Char} (h : nextName first s = .ok (.done r)) :
    ∃ l, s = l ++ r ∧ Solid l ∧ Stops l ∧ ∀ r', nextName first (l ++ r') = .ok (.done r') := by
  obtain ⟨b, rfl, hb⟩ := skipBlanks_eq_cons (nextName_done h)
  refine ⟨b ++ ['\x7d'], by simp, (solid_cons rfl []).append_left b, ?_, fun r' => ?_⟩
  · apply Stops.of_skipBlanks
    rw [hb]
    rfl
  · simp only [List.append_assoc, List.cons_append, List.nil_append, nextName, hb]

theorem nextName_of_quote {s t : List Char} (hquote : skipBlanks s = '"' :: t) :
    nextName true s = .ok (.next t) := by
  rw [nextName, hquote]
  rfl

theorem nextName_of_comma {s r t : List Char} (hcomma : skipBlanks s = ',' :: r)
    (hquote : skipBlanks r = '"' :: t) : nextName false s = .ok (.next t) := by
  rw [nextName, hcomma]
  split
  · next heq => cases heq
  · next heq => cases heq
  · next heq =>
    obtain ⟨rfl, rfl⟩ := List.cons.inj heq
    rw [if_neg Bool.false_ne_true, if_pos rfl, hquote]
    rfl

/-- What stands before a name, with its opening quote, is a piece of its own, and stops the member
    before. -/
theorem takes_nameStart {first : Bool} {s t : List Char} (h : nextName first s = .ok (.next t)) :
    ∃ l, s = l ++ t ∧ Solid l ∧ (first = false → Stops l) ∧
      ∀ t', nextName first (l ++ t') = .ok (.next t') := by
  cases first with
  | true =>
    obtain ⟨b, rfl, hb⟩ := skipBlanks_eq_cons (nextName_next_first h)
    refine ⟨b ++ ['"'], by simp, (solid_cons rfl []).append_left b, nofun, fun t' => ?_⟩
    simp only [List.append_assoc, List.cons_append, List.nil_append]
    exact nextName_of_quote (hb t')
  | false =>
    obtain ⟨u, hcomma, hquote⟩ := nextName_next h
    obtain ⟨b, rfl, hb⟩ := skipBlanks_eq_cons hcomma
    obtain ⟨b', rfl, hb'⟩ := skipBlanks_eq_cons hquote
    refine ⟨b ++ ',' :: (b' ++ ['"']), by simp, (solid_cons rfl _).append_left b, fun _ => ?_,
      fun t' => ?_⟩
    · apply Stops.of_skipBlanks
      rw [hb]
      rfl
    · simp only [List.append_assoc, List.cons_append, List.nil_append]
      exact nextName_of_comma (hb _) (hb' t')

/-- Members that are each taken off as a piece are taken off together. -/
theorem takes_members {σ : Type} {member : String → σ → Reader σ}
    (hmember : ∀ ⦃name state s next r⦄, member name state s = .ok (next, r) →
      TakesOff (member name state) s next r)
    {fuel : Nat} {first : Bool} {s r : List Char} {state last : σ}
    (h : members member fuel first state s = .ok (last, r)) :
    ∃ p, s = p ++ r ∧ Solid p ∧ (first = false → Stops p) ∧
      ∀ m, p.length ≤ m → Takes (members member m first state) p last := by
  induction fuel generalizing first state s with
  | zero => cases h
  | succ fuel ih =>
    rw [members] at h
    obtain ⟨step, hstep, h⟩ := bind_eq_ok.mp h
    cases step with
    | done t =>
      cases h
      obtain ⟨l, hs, hsolid, hstops, hl⟩ := takes_objectEnd hstep
      refine ⟨l, hs, hsolid, fun _ => hstops, fun m hm r' _ => ?_⟩
      have := List.length_pos_iff.mpr hsolid.ne_nil
      obtain ⟨m, rfl⟩ := Nat.exists_eq_add_one_of_ne_zero (n := m) (by omega)
      rw [members, hl]
      rfl
    | next t =>
      obtain ⟨⟨name, u⟩, hname, h⟩ := bind_eq_ok.mp h
      obtain ⟨⟨next, v⟩, hvalue, hrest⟩ := bind_eq_ok.mp h
      obtain ⟨l, hs, hsolid, hstops, hl⟩ := takes_nameStart hstep
      obtain ⟨n, ht, hspells⟩ := spells_of_stringTail hname
      obtain ⟨p, hu, hp, htakes⟩ := hmember hvalue
      obtain ⟨q, hv, hq, hqstops, hqtakes⟩ := ih hrest
      refine ⟨l ++ (n ++ '"' :: (p ++ q)), by simp [hs, ht, hu, hv], hsolid.append_right _,
        fun hfirst => (hstops hfirst).append hsolid.ne_nil _, fun m hm r' hr' => ?_⟩
      simp only [List.length_append, List.length_cons] at hm
      obtain ⟨m, rfl⟩ := Nat.exists_eq_add_one_of_ne_zero (n := m) (by omega)
      have hhead := htakes (q ++ r') ((hqstops rfl).append hq.ne_nil r')
      have hmembers := hqtakes m (by omega) r' hr'
      simp only [List.append_assoc, List.cons_append]
      rw [members, hl]
      simp only [bind, Except.bind, stringTail_spells hspells, hhead, hmembers]

/-! ## Records -/

namespace Fields

/-- Every field is read locally. -/
def Local {ts : List Type} : Fields ts → Prop
  | .nil => True
  | .cons f fs => f.codec.Local ∧ fs.Local

theorem takes_colon {s v : List Char} (h : colon s = .ok v) :
    ∃ l, s = l ++ v ∧ Solid l ∧ ∀ v', colon (l ++ v') = .ok v' := by
  obtain ⟨b, rfl, hb⟩ := skipBlanks_eq_cons (colon_eq_ok h)
  refine ⟨b ++ [':'], by simp, (solid_cons rfl []).append_left b, fun v' => ?_⟩
  simp only [List.append_assoc, List.cons_append, List.nil_append, colon, hb]

/-- A member is taken off with its colon and its value. -/
theorem takes_member {ts : List Type} {fs : Fields ts} (hlocal : fs.Local) {d : Nat} {name : String}
    {slots next : Slots ts} {s r : List Char} (h : fs.member d name slots s = .ok (next, r)) :
    TakesOff (fs.member d name slots) s next r := by
  induction fs generalizing s r with
  | nil =>
    obtain ⟨v, hcolon, h⟩ := bind_eq_ok.mp h
    obtain ⟨u, hpass, h⟩ := bind_eq_ok.mp h
    cases h
    obtain ⟨l, rfl, hsolid, hl⟩ := takes_colon hcolon
    obtain ⟨p, rfl, -, hp⟩ := eq_append_of_passValue hpass
    refine ⟨l ++ p, by simp, hsolid.append_right p, fun r' hr' => ?_⟩
    have hpass' : pass (p ++ r') = .ok r' := hp _ (by rw [List.length_append]; omega) r' hr'
    simp only [List.append_assoc, member, hl, hpass', bind, Except.bind]
  | cons f fs ih =>
    obtain ⟨slot, slots⟩ := slots
    obtain ⟨hfield, hfields⟩ := hlocal
    simp only [member] at h
    split at h
    · next heq =>
      cases slot with
      | some a => cases h
      | none =>
        obtain ⟨v, hcolon, h⟩ := bind_eq_ok.mp h
        obtain ⟨⟨a, u⟩, hvalue, h⟩ := bind_eq_ok.mp h
        cases h
        obtain ⟨l, rfl, hsolid, hl⟩ := takes_colon hcolon
        obtain ⟨p, rfl, -, hp⟩ := hfield.takes hvalue
        refine ⟨l ++ p, by simp, hsolid.append_right p, fun r' hr' => ?_⟩
        simp only [List.append_assoc, member, if_pos heq, hl, hp r' hr', bind, Except.bind]
    · next hne =>
      obtain ⟨⟨others, u⟩, hmember, h⟩ := bind_eq_ok.mp h
      cases h
      obtain ⟨p, hs, hsolid, hp⟩ := ih hfields hmember
      refine ⟨p, hs, hsolid, fun r' hr' => ?_⟩
      simp only [member, if_neg hne, hp r' hr', bind, Except.bind]

/-- The fields of a list form are taken off with its closing bracket. -/
theorem takes_ofItems {ts : List Type} {fs : Fields ts} (hlocal : fs.Local) {short : Nat → Cause}
    {d index : Nat} {s r : List Char} {as : Tuple ts}
    (h : fs.ofItems short d index s = .ok (as, r)) :
    ∃ p, s = p ++ r ∧ Solid p ∧ (index ≠ 0 → Stops p) ∧ Takes (fs.ofItems short d index) p as := by
  induction fs generalizing index s with
  | nil =>
    obtain ⟨t, hclose, h⟩ := bind_eq_ok.mp h
    cases h
    obtain ⟨b, rfl, hb⟩ := skipBlanks_eq_cons (closeList_eq_ok hclose)
    refine ⟨b ++ [']'], by simp, (solid_cons rfl []).append_left b, fun _ => ?_, fun r' _ => ?_⟩
    · apply Stops.of_skipBlanks
      rw [hb]
      rfl
    · simp only [List.append_assoc, List.cons_append, List.nil_append, ofItems, closeList, hb, bind,
        Except.bind]
  | cons f fs ih =>
    obtain ⟨hfield, hfields⟩ := hlocal
    simp only [ofItems] at h
    obtain ⟨step, hstep, h⟩ := bind_eq_ok.mp h
    cases step with
    | done t =>
      dsimp only at h
      obtain ⟨l, hs, hsolid, hstops, hl⟩ := takes_listEnd hstep
      split at h
      · next bs habsents =>
        cases h
        refine ⟨l, hs, hsolid, fun _ => hstops, fun r' _ => ?_⟩
        simp only [ofItems, hl, bind, Except.bind, habsents]
      · cases h
    | next v =>
      obtain ⟨⟨a, u⟩, hvalue, h⟩ := bind_eq_ok.mp h
      obtain ⟨⟨bs, t⟩, hrest, h⟩ := bind_eq_ok.mp h
      cases h
      obtain ⟨p, rfl, hsolid, hstops, hp⟩ := takes_item hstep (hfield.takes hvalue)
      obtain ⟨q, rfl, hq, hqstops, hqtakes⟩ := ih hfields hrest
      refine ⟨p ++ q, by simp, hsolid.append_right q, fun hindex => ?_, fun r' hr' => ?_⟩
      · exact (hstops (beq_false_of_ne hindex)).append hsolid.ne_nil q
      · have hqr := (hqstops (Nat.succ_ne_zero index)).append hq.ne_nil r'
        obtain ⟨v, hnext, hhead⟩ := hp (q ++ r') hqr
        have hitems := hqtakes r' hr'
        rw [List.append_assoc, ofItems, hnext]
        simp only [bind, Except.bind, hhead, hitems]

end Fields

theorem Record.local {α : Type} {r : Record α} (h : r.fields.Local) : r.codec.Local := by
  refine .of_start (fun d s => ?_) ?_
  · simp only [codec, skipBlanks_skipBlanks]
  · intro d s a rest hs hread
    simp only [codec, hs] at hread
    split at hread
    · split at hread
      · cases hread
      · next d =>
        obtain ⟨⟨slots, t⟩, hmembers, hread⟩ := bind_eq_ok.mp hread
        obtain ⟨p, hu, -, -, htakes⟩ :=
          takes_members (fun _ _ _ _ _ hmember => Fields.takes_member h hmember) hmembers
        dsimp only at hread
        split at hread
        · next as hfilled =>
          cases hread
          refine ⟨'\x7b' :: p, by rw [hu, List.cons_append], solid_cons rfl p, fun r' hr' => ?_⟩
          have hmembers' := htakes (p ++ r').length (by rw [List.length_append]; omega) r' hr'
          simp only [List.cons_append, codec, ofObject, hmembers', hfilled, bind, Except.bind,
            skipBlanks_cons (show isBlank '\x7b' = false from rfl)]
        · cases hread
    · split at hread
      · cases hread
      · next d =>
        obtain ⟨⟨as, t⟩, hitems, hread⟩ := bind_eq_ok.mp hread
        cases hread
        obtain ⟨p, rfl, -, -, htakes⟩ := Fields.takes_ofItems h hitems
        refine ⟨'[' :: p, rfl, solid_cons rfl p, fun r' hr' => ?_⟩
        simp only [List.cons_append, codec, ofList, htakes r' hr', bind, Except.bind,
          skipBlanks_cons (show isBlank '[' = false from rfl)]
    · cases hread

/-! ## Values of the grammar -/

/-- A value of the grammar is read inside a text as it is read alone. -/
theorem Codec.Local.read_eq_ok_iff {α : Type} {c : Codec α} (h : c.Local) (hwhole : c.Whole)
    {v : List Char} (hv : ValueText v) {b r : List Char} (hb : Blanks b) (hr : Stops r) {d : Nat}
    {a : α} {rest : List Char} :
    c.read d (b ++ (v ++ r)) = .ok (a, rest) ↔ rest = r ∧ c.read d v = .ok (a, []) := by
  -- Whatever rest stops the value: the codec takes the value and nothing else.
  have hpiece : ∀ s u, Stops s → c.read d (v ++ s) = .ok (a, u) → u = s ∧ Takes (c.read d) v a := by
    intro s u hs hread
    have hrest : u = s := Except.ok.inj ((hwhole hread).symm.trans (pass_value hv hs))
    obtain ⟨p, hp, -, htakes⟩ := h.takes hread
    rw [hrest] at hp
    exact ⟨hrest, List.append_cancel_right hp ▸ htakes⟩
  rw [← h.skips, skipBlanks_blanks hb, h.skips]
  constructor
  · intro hread
    obtain ⟨hrest, htakes⟩ := hpiece r rest hr hread
    have halone := htakes [] trivial
    rw [List.append_nil] at halone
    exact ⟨hrest, halone⟩
  · rintro ⟨rfl, halone⟩
    rw [← List.append_nil v] at halone
    exact (hpiece [] [] trivial halone).2 rest hr

end Switchboard.Json
