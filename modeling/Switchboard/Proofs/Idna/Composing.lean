import Switchboard.Proofs.Idna.Capitals
/-
  What composing does to a name. The characters of the composed form are parts of the characters of
  the name, or composed ones, and these lie beyond ASCII (`mem_composeParts`). So a name without
  capitals has a composed form without capital letters (`not_isUpper_of_mem_composed`), and a name in
  ASCII is its own composed form (`composed_of_ascii`).
-/
namespace Switchboard.Idna

open Switchboard.Text

/-! ## Taking apart -/

theorem isCapitalFree_toNat {c : Char} (h : hasCapital c.toNat = false) :
    isCapitalFree c.toNat = true := by
  unfold isCapitalFree
  rw [h, Bool.not_false, Bool.and_true]
  exact decide_eq_true c.valid

/-- The parts of a code point without capitals have no capitals. -/
theorem capital_free_partsOf {depth n : Nat} (h : isCapitalFree n = true) :
    ∀ d ∈ partsOf depth n, hasCapital d.toNat = false := by
  induction depth generalizing n with
  | zero =>
    intro d hd
    cases List.mem_singleton.mp hd
    exact hasCapital_ofNat h
  | succ depth ih =>
    intro d hd
    unfold partsOf at hd
    split at hd
    · next k hfound =>
      have hsound := sound_of_mem_composites (List.mem_of_find?_eq_some hfound)
      have hwhole : k.whole = n := beq_iff_eq.mp
        (List.find?_some (p := fun k : Composite => k.whole == n) hfound)
      have hfirst : isCapitalFree k.first = true := by
        unfold isCapitalFree at h ⊢
        rw [Bool.and_eq_true, Bool.not_eq_true', decide_eq_true_eq] at h ⊢
        refine ⟨hsound.first_valid, eq_false_of_ne_true fun hcapital => ?_⟩
        have := hsound.first_capital hcapital
        rw [hwhole, h.2] at this
        cases this
      rcases List.mem_append.mp hd with hd | hd
      · exact ih hfirst d hd
      · cases List.mem_singleton.mp hd
        rw [toNat_ofNat hsound.second_valid]
        exact hsound.second_small
    · cases List.mem_singleton.mp hd
      exact hasCapital_ofNat h

/-- The code points of the parts of Korean syllables have no capitals. -/
theorem hasCapital_korean {n : Nat} (hlow : 0x1100 ≤ n) (hhigh : n < 0x1200) :
    hasCapital (Char.ofNat n).toNat = false := by
  have hall : ∀ x < 0x100, isCapitalFree (0x1100 + x) = true := by decide +kernel
  have hn := hall (n - 0x1100) (by omega)
  rw [Nat.add_sub_cancel' hlow] at hn
  exact hasCapital_ofNat hn

theorem capital_free_syllableParts {n : Nat}
    (h : syllableBase ≤ n ∧ n < syllableBase + syllableCount) :
    ∀ d ∈ syllableParts n, hasCapital d.toNat = false := by
  intro d hd
  unfold syllableCount leadCount at h
  unfold syllableParts leadBase vowelBase tailBase at hd
  unfold vowelCount tailCount at h hd
  rcases List.mem_cons.mp hd with rfl | hd
  · exact hasCapital_korean (by omega) (by omega)
  · rcases List.mem_cons.mp hd with rfl | hd
    · exact hasCapital_korean (by omega) (by omega)
    · split at hd
      · cases hd
      · rw [List.mem_singleton.mp hd]
        exact hasCapital_korean (by omega) (by omega)

theorem capital_free_decomposeChar {c : Char} (h : hasCapital c.toNat = false) :
    ∀ d ∈ decomposeChar c, hasCapital d.toNat = false := by
  unfold decomposeChar
  split
  · intro d hd
    cases List.mem_singleton.mp hd
    exact h
  · split
    · next hsyllable => exact capital_free_syllableParts hsyllable
    · exact capital_free_partsOf (isCapitalFree_toNat h)

/-! ## Ordering marks -/

theorem mem_placeMark {c d : Char} {s : List Char} : d ∈ placeMark c s ↔ d = c ∨ d ∈ s := by
  induction s with
  | nil => simp [placeMark]
  | cons e s ih =>
    unfold placeMark
    split
    · rw [List.mem_cons, ih, List.mem_cons]
      exact or_left_comm
    · rw [List.mem_cons]

theorem mem_orderMarks {d : Char} {s : List Char} : d ∈ orderMarks s ↔ d ∈ s := by
  induction s with
  | nil => exact Iff.rfl
  | cons c s ih =>
    unfold orderMarks
    split
    · rw [List.mem_cons, ih, List.mem_cons]
    · rw [mem_placeMark, ih, List.mem_cons]

/-! ## Putting together -/

/-- What two parts of a Korean syllable make lies beyond ASCII, and so does the second part. -/
theorem large_of_composeSyllable? {a b : Nat} {c : Char} (h : composeSyllable? a b = some c) :
    0xC0 ≤ c.toNat ∧ 0x300 ≤ b := by
  unfold composeSyllable? syllableBase syllableCount leadBase leadCount vowelBase tailBase at h
  unfold vowelCount tailCount at h
  split at h
  · rw [← Option.some.inj h, toNat_ofNat (.inl (by omega))]
    omega
  · split at h
    · rw [← Option.some.inj h, toNat_ofNat (.inl (by omega))]
      omega
    · cases h

/-- What two characters make lies beyond ASCII, and so does the second one. -/
theorem large_of_compose? {a b c : Char} (h : compose? a b = some c) :
    0xC0 ≤ c.toNat ∧ 0x300 ≤ b.toNat := by
  unfold compose? at h
  split at h
  · next d hd =>
    cases h
    exact large_of_composeSyllable? hd
  · obtain ⟨k, hfound, rfl⟩ := Option.map_eq_some_iff.mp h
    have hsound := sound_of_mem_composites (List.mem_of_find?_eq_some hfound)
    have hparts := List.find?_some
      (p := fun k : Composite => k.first == a.toNat && k.second == b.toNat) hfound
    simp only [Bool.and_eq_true, beq_iff_eq] at hparts
    rw [toNat_ofNat hsound.whole_valid, ← hparts.2]
    exact ⟨hsound.whole_large, hsound.second_large⟩

theorem mem_composeFrom {d start : Char} {marks s : List Char}
    (h : d ∈ composeFrom start marks s) : d ∈ start :: marks ++ s ∨ 0xC0 ≤ d.toNat := by
  induction s generalizing start marks with
  | nil =>
    rw [List.append_nil]
    exact .inl h
  | cons c s ih =>
    unfold composeFrom at h
    dsimp only at h
    split at h
    · next e he =>
      have hlarge : 0xC0 ≤ e.toNat := by
        rw [Option.ite_none_right_eq_some] at he
        exact (large_of_compose? he.2).1
      rcases ih h with hd | hd
      · simp only [List.cons_append, List.mem_cons, List.mem_append] at hd ⊢
        rcases hd with rfl | hd | hd
        · exact .inr hlarge
        · exact .inl (.inr (.inl hd))
        · exact .inl (.inr (.inr (.inr hd)))
      · exact .inr hd
    · split at h
      · rcases List.mem_append.mp h with hd | hd
        · exact .inl (List.mem_append_left _ hd)
        · refine (ih hd).imp_left fun hd => ?_
          exact List.mem_append_right _ hd
      · refine (ih h).imp_left fun hd => ?_
        simpa using hd

/-- A character of the composed parts is a part or lies beyond ASCII. -/
theorem mem_composeParts {d : Char} {s : List Char} (h : d ∈ composeParts s) :
    d ∈ s ∨ 0xC0 ≤ d.toNat := by
  induction s with
  | nil => cases h
  | cons c s ih =>
    unfold composeParts at h
    split at h
    · exact mem_composeFrom h
    · rcases List.mem_cons.mp h with rfl | hd
      · exact .inl List.mem_cons_self
      · exact (ih hd).imp_left (List.mem_cons_of_mem c)

theorem hasCapital_of_isUpper {c : Char} (h : c.isUpper = true) : hasCapital c.toNat = true := by
  have hall : ∀ x < 26, hasCapital (0x41 + x) = true := by decide
  obtain ⟨hlow, hhigh⟩ := isUpper_iff.mp h
  have hc := hall (c.toNat - 0x41) (by omega)
  rwa [Nat.add_sub_cancel' hlow] at hc

/-- A name without capitals has a composed form without capital letters. -/
theorem not_isUpper_of_mem_composed {s : List Char} (h : ∀ c ∈ s, hasCapital c.toNat = false)
    {d : Char} (hd : d ∈ composed s) : d.isUpper = false := by
  refine eq_false_of_ne_true fun hupper => ?_
  rcases mem_composeParts hd with hd | hd
  · obtain ⟨c, hc, hd⟩ := List.mem_flatMap.mp (mem_orderMarks.mp hd)
    have hcapital := hasCapital_of_isUpper hupper
    rw [capital_free_decomposeChar (h c hc) d hd] at hcapital
    cases hcapital
  · have := (isUpper_iff.mp hupper).2
    omega

/-! ## Names in ASCII -/

theorem combiningClass_of_small {c : Char} (h : c.toNat < 0x300) : combiningClass c = 0 :=
  if_pos h

theorem orderMarks_of_small {s : List Char} (h : ∀ c ∈ s, c.toNat < 0x300) : orderMarks s = s := by
  induction s with
  | nil => rfl
  | cons c s ih =>
    unfold orderMarks
    rw [if_pos (combiningClass_of_small (h c List.mem_cons_self)),
      ih fun d hd => h d (List.mem_cons_of_mem c hd)]

theorem composeFrom_of_small {start : Char} {s : List Char} (h : ∀ c ∈ s, c.toNat < 0x300) :
    composeFrom start [] s = start :: s := by
  induction s generalizing start with
  | nil => rfl
  | cons c s ih =>
    have hc := h c List.mem_cons_self
    have hnone : compose? start c = none := by
      refine Option.eq_none_iff_forall_ne_some.mpr fun d hd => ?_
      have := (large_of_compose? hd).2
      omega
    unfold composeFrom
    simp only [List.getLast?_nil, if_true, hnone, combiningClass_of_small hc]
    rw [ih fun d hd => h d (List.mem_cons_of_mem c hd)]
    rfl

theorem composeParts_of_small {s : List Char} (h : ∀ c ∈ s, c.toNat < 0x300) :
    composeParts s = s := by
  cases s with
  | nil => rfl
  | cons c s =>
    unfold composeParts
    rw [if_pos (combiningClass_of_small (h c List.mem_cons_self)),
      composeFrom_of_small fun d hd => h d (List.mem_cons_of_mem c hd)]

/-- A name in ASCII is its own composed form. -/
theorem composed_of_ascii {s : List Char} (h : ∀ c ∈ s, c.toNat < 0x80) : composed s = s := by
  have hparts : s.flatMap decomposeChar = s := by
    have hself : ∀ c ∈ s, decomposeChar c = [c] := fun c hc => if_pos (by have := h c hc; omega)
    rw [List.flatMap_def, List.map_congr_left hself, ← List.flatMap_def]
    exact List.flatMap_singleton' s
  have hsmall : ∀ c ∈ s, c.toNat < 0x300 := fun c hc => by
    have := h c hc
    omega
  unfold composed
  rw [hparts, orderMarks_of_small hsmall, composeParts_of_small hsmall]

end Switchboard.Idna
