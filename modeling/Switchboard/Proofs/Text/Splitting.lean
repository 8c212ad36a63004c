import Switchboard.Text.CodePoints
/-
  Texts that are split at marks: at every one (`pieces`), at the first (`cut`) or at the last. A
  text without the mark is not split, and a mark is found behind a piece without it. The last section
  is about the characters of ASCII, of which there are few enough to look at each (`forall_ascii`).
-/
namespace Switchboard.Text

variable {mark : Char} {s : List Char}

/-! ## At every mark -/

theorem pieces_of_not_mem (h : mark ∉ s) : pieces mark s = [s] := by
  induction s with
  | nil => rfl
  | cons c s ih =>
    obtain ⟨hc, hs⟩ := List.ne_and_not_mem_of_not_mem_cons h
    rw [pieces, if_neg (Ne.symm hc), ih hs]

theorem pieces_append (h : mark ∉ s) (r : List Char) :
    pieces mark (s ++ mark :: r) = s :: pieces mark r := by
  induction s with
  | nil => rw [List.nil_append, pieces, if_pos rfl]
  | cons c s ih =>
    obtain ⟨hc, hs⟩ := List.ne_and_not_mem_of_not_mem_cons h
    rw [List.cons_append, pieces, if_neg (Ne.symm hc), ih hs]

theorem pieces_ne_nil (mark : Char) (s : List Char) : pieces mark s ≠ [] := by
  cases s with
  | nil => exact List.cons_ne_nil _ _
  | cons c s =>
    unfold pieces
    split
    · exact List.cons_ne_nil _ _
    · split <;> exact List.cons_ne_nil _ _

/-- The pieces of a text, put together again. -/
theorem intercalate_pieces (mark : Char) (s : List Char) :
    List.intercalate [mark] (pieces mark s) = s := by
  induction s with
  | nil => rfl
  | cons c s ih =>
    unfold pieces
    cases hpieces : pieces mark s with
    | nil => exact absurd hpieces (pieces_ne_nil mark s)
    | cons p ps =>
      rw [hpieces] at ih
      split
      · next hc => rw [List.intercalate_cons_cons, ih, hc, List.nil_append, List.singleton_append]
      · cases ps with
        | nil =>
          rw [List.intercalate_singleton] at ih ⊢
          rw [ih]
        | cons q ps =>
          rw [List.intercalate_cons_cons] at ih ⊢
          rw [← ih]
          simp

/-- A mark ends the pieces of what stands before it. -/
theorem pieces_append_mark (mark : Char) (s r : List Char) :
    pieces mark (s ++ mark :: r) = pieces mark s ++ pieces mark r := by
  induction s with
  | nil =>
    rw [List.nil_append, pieces, pieces, if_pos rfl]
    rfl
  | cons c s ih =>
    rw [List.cons_append, pieces, ih, pieces]
    split
    · rw [List.cons_append]
    · cases hs : pieces mark s with
      | nil => exact absurd hs (pieces_ne_nil mark s)
      | cons p ps => rfl

theorem intercalate_append {ps qs : List (List Char)} (hps : ps ≠ []) (hqs : qs ≠ []) :
    List.intercalate [mark] (ps ++ qs) =
      List.intercalate [mark] ps ++ mark :: List.intercalate [mark] qs := by
  induction ps with
  | nil => exact absurd rfl hps
  | cons p ps ih =>
    cases ps with
    | nil =>
      obtain ⟨q, qs, rfl⟩ := List.exists_cons_of_ne_nil hqs
      rw [List.singleton_append, List.intercalate_cons_cons, List.intercalate_singleton,
        List.append_assoc, List.singleton_append]
    | cons p' ps =>
      rw [List.cons_append, List.cons_append, List.intercalate_cons_cons,
        List.intercalate_cons_cons, ← List.cons_append, ih (List.cons_ne_nil _ _)]
      simp

/-- With a mark at the end of both, a text starts another exactly if its pieces are the first of
    the other's. -/
theorem append_mark_prefix_iff {s t : List Char} :
    s ++ [mark] <+: t ++ [mark] ↔ pieces mark s <+: pieces mark t := by
  constructor
  · rintro ⟨r, hr⟩
    rw [List.append_assoc, List.singleton_append] at hr
    have hpieces := congrArg (pieces mark) hr
    rw [pieces_append_mark, pieces_append_mark] at hpieces
    -- The piece behind the mark of `t` is empty; it is the last one of `r`.
    obtain ⟨ps, p, hps⟩ :=
      (List.eq_nil_or_concat (pieces mark r)).resolve_left (pieces_ne_nil mark r)
    rw [hps, List.concat_eq_append, pieces, ← List.append_assoc] at hpieces
    exact ⟨ps, (List.append_inj' hpieces rfl).1⟩
  · rintro ⟨ps, hps⟩
    have ht := intercalate_pieces mark t
    rw [← hps] at ht
    cases ps with
    | nil =>
      rw [List.append_nil, intercalate_pieces] at ht
      exact ht ▸ List.prefix_refl _
    | cons p ps =>
      rw [intercalate_append (pieces_ne_nil mark s) (List.cons_ne_nil p ps), intercalate_pieces] at ht
      rw [← ht, List.append_cons, List.append_assoc, List.append_assoc]
      exact List.prefix_append_right_inj s |>.mpr ⟨_, rfl⟩

theorem mem_intercalate {ps : List (List Char)} {c : Char} :
    c ∈ List.intercalate [mark] ps → c = mark ∨ ∃ p ∈ ps, c ∈ p := by
  induction ps with
  | nil => nofun
  | cons p ps ih =>
    intro h
    cases ps with
    | nil =>
      rw [List.intercalate_singleton] at h
      exact .inr ⟨p, List.mem_cons_self, h⟩
    | cons q ps =>
      rw [List.intercalate_cons_cons, List.mem_append, List.mem_append, List.mem_singleton] at h
      rcases h with (h | h) | h
      · exact .inr ⟨p, List.mem_cons_self, h⟩
      · exact .inl h
      · exact (ih h).imp_right fun ⟨x, hx, hc⟩ => ⟨x, List.mem_cons_of_mem p hx, hc⟩

/-- The characters of the pieces are those of the text. -/
theorem mem_of_mem_pieces {p : List Char} (hp : p ∈ pieces mark s) {c : Char} (hc : c ∈ p) :
    c ∈ s := by
  induction s generalizing p with
  | nil =>
    cases List.mem_singleton.mp hp
    cases hc
  | cons d s ih =>
    unfold pieces at hp
    split at hp
    · rcases List.mem_cons.mp hp with rfl | hp
      · cases hc
      · exact List.mem_cons_of_mem d (ih hp hc)
    · split at hp
      · cases List.mem_singleton.mp hp
        exact List.mem_cons.mpr (.inl (List.mem_singleton.mp hc))
      · next q qs hpieces =>
        rw [hpieces] at ih
        rcases List.mem_cons.mp hp with rfl | hp
        · rcases List.mem_cons.mp hc with rfl | hc
          · exact List.mem_cons_self
          · exact List.mem_cons_of_mem d (ih List.mem_cons_self hc)
        · exact List.mem_cons_of_mem d (ih (List.mem_cons_of_mem q hp) hc)

/-! ## At the first mark -/

theorem cut_of_not_mem (h : mark ∉ s) : cut mark s = (s, none) := by
  induction s with
  | nil => rfl
  | cons c s ih =>
    obtain ⟨hc, hs⟩ := List.ne_and_not_mem_of_not_mem_cons h
    rw [cut, if_neg (Ne.symm hc), ih hs]

theorem cut_append (h : mark ∉ s) (r : List Char) : cut mark (s ++ mark :: r) = (s, some r) := by
  induction s with
  | nil => rw [List.nil_append, cut, if_pos rfl]
  | cons c s ih =>
    obtain ⟨hc, hs⟩ := List.ne_and_not_mem_of_not_mem_cons h
    rw [List.cons_append, cut, if_neg (Ne.symm hc), ih hs]

/-! ## At the last mark -/

/-- What follows the last mark, taken from the end. -/
theorem afterLast_append {x : List Char} (hx : mark ∉ x) (s : List Char) :
    ((s ++ mark :: x).reverse.takeWhile (· ≠ mark)).reverse = x := by
  have hall : ∀ c ∈ x.reverse, decide (c ≠ mark) = true := fun c hc =>
    decide_eq_true fun heq => hx (heq ▸ List.mem_reverse.mp hc)
  rw [List.reverse_append, List.reverse_cons, List.append_assoc, List.takeWhile_append_of_pos hall]
  simp

theorem afterLast_of_not_mem (h : mark ∉ s) : (s.reverse.takeWhile (· ≠ mark)).reverse = s := by
  have hall : ∀ c ∈ s.reverse, decide (c ≠ mark) = true := fun c hc =>
    decide_eq_true fun heq => h (heq ▸ List.mem_reverse.mp hc)
  rw [← List.append_nil s.reverse, List.takeWhile_append_of_pos hall, List.takeWhile_nil,
    List.append_nil, List.reverse_reverse]

/-- A text with a mark has a last one. -/
theorem exists_last_of_mem (h : mark ∈ s) : ∃ a b, s = a ++ mark :: b ∧ mark ∉ b := by
  obtain ⟨b, a, hs, hb⟩ := List.eq_append_cons_of_mem (List.mem_reverse.mpr h)
  refine ⟨a.reverse, b.reverse, ?_, fun hmem => hb (List.mem_reverse.mp hmem)⟩
  rw [← List.reverse_reverse s, hs, List.reverse_append, List.reverse_cons, List.append_assoc,
    List.singleton_append]

/-! ## Characters of ASCII -/

/-- What holds of all code points of ASCII holds of each of its characters. -/
theorem forall_ascii {p : Char → Prop} (hall : ∀ n < 0x80, p (Char.ofNat n)) {c : Char}
    (hc : c.toNat < 0x80) : p c := by
  have h := hall c.toNat hc
  rwa [Char.ofNat_toNat] at h

theorem toNat_le_toNat {c d : Char} (h : c ≤ d) : c.toNat ≤ d.toNat := UInt32.le_iff_toNat_le.mp h

theorem lt_of_isDigit {c : Char} (h : c.isDigit = true) : c.toNat < 0x80 :=
  Nat.lt_of_le_of_lt (Char.isDigit_iff_toNat.mp h).2 (by decide)

theorem isUpper_iff {c : Char} : c.isUpper = true ↔ 0x41 ≤ c.toNat ∧ c.toNat ≤ 0x5A :=
  decide_eq_true_iff (p := c.val ≥ 'A'.val ∧ c.val ≤ 'Z'.val)

theorem lt_of_isAlpha {c : Char} (h : c.isAlpha = true) : c.toNat < 0x80 := by
  have hcases : (c.isUpper || c.isLower) = true := h
  rcases Bool.or_eq_true_iff.mp hcases with hupper | hlower
  · exact Nat.lt_of_le_of_lt (isUpper_iff.mp hupper).2 (by decide)
  · have hc : c ≤ 'z' := of_decide_eq_true (Bool.and_eq_true_iff.mp hlower).2
    exact Nat.lt_of_le_of_lt (toNat_le_toNat hc) (by decide)

theorem toLower_of_not_isUpper {c : Char} (h : c.isUpper = false) : c.toLower = c := by
  have hc : ¬(c.val ≥ 'A'.val ∧ c.val ≤ 'Z'.val) := of_decide_eq_false h
  exact dif_neg hc

end Switchboard.Text
