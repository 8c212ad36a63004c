import Mathlib.Data.List.DropRight
import Mathlib.Data.List.Nodup
import Switchboard.Proofs.Text.Splitting
/-
  Lists in texts, with a mark between the items and blanks around them. What stands between the
  marks are the pieces that the library splits a text into (`pieces_eq_splitOn`), and a text is
  split into the pieces that it was put together from (`pieces_intercalate`). Of a piece `trim`
  leaves all but the blanks at its ends, and this it finds again in whatever blanks (`trim_eq_iff`).
  `distinct` keeps the first occurrence of each element and the order of these (`firsts_distinct`).
-/
namespace Switchboard.Text

/-! ## Pieces -/

section

variable {mark : Char} {s : List Char}

theorem not_mem_of_mem_pieces {p : List Char} (hp : p ∈ pieces mark s) : mark ∉ p := by
  induction s generalizing p with
  | nil =>
    rw [List.mem_singleton.mp hp]
    exact List.not_mem_nil
  | cons c s ih =>
    unfold pieces at hp
    split at hp
    · rcases List.mem_cons.mp hp with rfl | hp
      · exact List.not_mem_nil
      · exact ih hp
    · next hc =>
      split at hp
      · rw [List.mem_singleton.mp hp, List.mem_singleton]
        exact Ne.symm hc
      · next q qs hpieces =>
        rw [hpieces] at ih
        rcases List.mem_cons.mp hp with rfl | hp
        · exact List.not_mem_cons_of_ne_of_not_mem (Ne.symm hc) (ih List.mem_cons_self)
        · exact ih (List.mem_cons_of_mem q hp)

theorem pieces_eq_splitOn (mark : Char) (s : List Char) : pieces mark s = s.splitOn mark := by
  have hsplit := List.splitOn_intercalate mark (fun _ => not_mem_of_mem_pieces) (pieces_ne_nil mark s)
  rw [intercalate_pieces] at hsplit
  exact hsplit.symm

/-- A text is split into the pieces that it was put together from. -/
theorem pieces_intercalate {ps : List (List Char)} (hps : ps ≠ []) (hfree : ∀ p ∈ ps, mark ∉ p) :
    pieces mark (List.intercalate [mark] ps) = ps := by
  rw [pieces_eq_splitOn]
  exact List.splitOn_intercalate mark hfree hps

end

/-! ## Blanks at the ends -/

/-- A text that has nothing but blanks. -/
def Blanks (s : List Char) : Prop := ∀ c ∈ s, isBlank c = true

instance (s : List Char) : Decidable (Blanks s) :=
  decidable_of_iff (s.all isBlank = true) List.all_eq_true

/-- A text that neither starts nor ends with a blank. -/
structure Tight (s : List Char) : Prop where
  first : ∀ c ∈ s.head?, isBlank c = false
  last : ∀ c ∈ s.getLast?, isBlank c = false

/-- The first text is the second with blanks around it. -/
def Padded (s t : List Char) : Prop :=
  ∃ before after, Blanks before ∧ Blanks after ∧ s = before ++ t ++ after

/-- The second text is what is left of the first without the blanks at its ends. -/
structure Trims (s t : List Char) : Prop where
  padded : Padded s t
  tight : Tight t

theorem trimEnd_concat (s : List Char) (c : Char) :
    trimEnd (s ++ [c]) = if isBlank c then trimEnd s else s ++ [c] := by
  induction s with
  | nil => rfl
  | cons d s ih =>
    rw [List.cons_append, trimEnd, ih]
    by_cases hc : isBlank c = true
    · rw [if_pos hc, if_pos hc, trimEnd]
    · rw [if_neg hc, if_neg hc]
      cases s <;> rfl

theorem trimEnd_eq_rdropWhile (s : List Char) : trimEnd s = s.rdropWhile isBlank := by
  induction s using List.reverseRecOn with
  | nil => rfl
  | append_singleton s c ih => rw [trimEnd_concat, List.rdropWhile_concat, ih]

theorem trimEnd_append_blanks {b : List Char} (hb : Blanks b) (s : List Char) :
    trimEnd (s ++ b) = trimEnd s := by
  have hreverse : ∀ c ∈ b.reverse, isBlank c = true := fun c hc => hb c (List.mem_reverse.mp hc)
  rw [trimEnd_eq_rdropWhile, trimEnd_eq_rdropWhile, List.rdropWhile, List.reverse_append,
    List.dropWhile_append_of_pos hreverse, List.rdropWhile]

theorem trimEnd_of_tight {s : List Char} (h : Tight s) : trimEnd s = s := by
  rw [trimEnd_eq_rdropWhile, List.rdropWhile_eq_self_iff]
  intro hne
  exact ne_true_of_eq_false (h.last _ (List.getLast_mem_getLast? hne))

theorem padded_trim (s : List Char) : Padded s (trim s) := by
  unfold trim
  rw [trimEnd_eq_rdropWhile]
  refine ⟨s.takeWhile isBlank, (s.dropWhile isBlank).rtakeWhile isBlank,
    fun _ hc => List.mem_takeWhile_imp hc, fun _ hc => List.mem_rtakeWhile_imp hc, ?_⟩
  rw [List.append_assoc, List.rdropWhile_append_rtakeWhile, List.takeWhile_append_dropWhile]

theorem tight_trim (s : List Char) : Tight (trim s) := by
  unfold trim
  rw [trimEnd_eq_rdropWhile]
  have hhead := List.head?_dropWhile_not isBlank s
  generalize s.dropWhile isBlank = inner at hhead
  constructor
  · intro c hc
    have hinner : inner.head? = some c := by
      rw [← List.rdropWhile_append_rtakeWhile (p := isBlank) (l := inner), List.head?_append,
        Option.mem_def.mp hc, Option.some_or]
    rw [hinner] at hhead
    exact hhead
  · intro c hc
    obtain ⟨hne, rfl⟩ := List.mem_getLast?_eq_getLast hc
    exact eq_false_of_ne_true (List.rdropWhile_last_not isBlank inner hne)

theorem trims_trim (s : List Char) : Trims s (trim s) := ⟨padded_trim s, tight_trim s⟩

/-- What is left of a text is one text only, in whatever blanks it stands. -/
theorem trim_eq_iff {s t : List Char} : trim s = t ↔ Trims s t := by
  constructor
  · rintro rfl
    exact trims_trim s
  · rintro ⟨⟨before, after, hbefore, hafter, rfl⟩, htight⟩
    unfold trim
    rw [List.append_assoc, List.dropWhile_append_of_pos hbefore]
    cases t with
    | nil =>
      have hnil : after.dropWhile isBlank = [] := List.dropWhile_eq_nil_iff.mpr hafter
      rw [List.nil_append, hnil]
      rfl
    | cons c t =>
      have hc : isBlank c = false := htight.first c rfl
      rw [List.cons_append, List.dropWhile_cons_of_neg (ne_true_of_eq_false hc),
        ← List.cons_append, trimEnd_append_blanks hafter, trimEnd_of_tight htight]

theorem trim_eq_nil_iff {s : List Char} : trim s = [] ↔ Blanks s := by
  rw [trim_eq_iff]
  constructor
  · rintro ⟨⟨before, after, hbefore, hafter, rfl⟩, -⟩ c hc
    rw [List.append_nil] at hc
    exact (List.mem_append.mp hc).elim (hbefore c) (hafter c)
  · intro h
    exact ⟨⟨s, [], h, nofun, by rw [List.append_nil, List.append_nil]⟩, nofun, nofun⟩

/-- What is no blank is left by trimming. -/
theorem mem_trim {c : Char} (hc : isBlank c = false) {s : List Char} : c ∈ trim s ↔ c ∈ s := by
  obtain ⟨⟨before, after, hbefore, hafter, hs⟩, -⟩ := trims_trim s
  have hne : ∀ {b : List Char}, Blanks b → c ∉ b := fun hb hmem =>
    Bool.false_ne_true (hc.symm.trans (hb c hmem))
  rw [iff_comm]
  conv_lhs => rw [hs]
  simp [hne hbefore, hne hafter]

/-! ## First occurrences -/

section

variable {α : Type} [DecidableEq α]

/-- The second list has the elements of the first, in the order in which they first occur there;
    hence each of them once. -/
structure Firsts (l r : List α) : Prop where
  mem_iff : ∀ a, a ∈ r ↔ a ∈ l
  ordered : r.Pairwise fun a b => l.idxOf a < l.idxOf b

theorem firsts_distinct (l : List α) : Firsts l (distinct l) := by
  refine ⟨fun a => mem_distinct, ?_⟩
  induction l with
  | nil => exact List.Pairwise.nil
  | cons a l ih =>
    rw [distinct, List.pairwise_cons]
    -- Behind `a` every other element occurs one place later.
    have hlater : ∀ b ∈ (distinct l).filter (· ≠ a), (a :: l).idxOf b = l.idxOf b + 1 := by
      intro b hb
      exact List.idxOf_cons_ne l (Ne.symm (of_decide_eq_true (List.mem_filter.mp hb).2))
    constructor
    · intro b hb
      rw [List.idxOf_cons_self, hlater b hb]
      exact Nat.succ_pos _
    · refine (ih.filter _).imp_of_mem fun hb hc hlt => ?_
      rw [hlater _ hb, hlater _ hc]
      exact Nat.succ_lt_succ hlt

theorem distinct_of_nodup {l : List α} (h : l.Nodup) : distinct l = l := by
  induction l with
  | nil => rfl
  | cons a l ih =>
    obtain ⟨ha, hl⟩ := List.nodup_cons.mp h
    rw [distinct, ih hl, List.filter_eq_self.mpr]
    intro b hb
    exact decide_eq_true fun hba => ha (hba ▸ hb)

end

end Switchboard.Text
