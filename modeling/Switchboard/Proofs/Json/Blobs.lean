import Switchboard.Proofs.Json.Leaves
/-
  Blobs. What is passed over as one value depends on nothing that follows it (`carries_passValue`):
  the same piece is passed over before anything that stops it. So a blob that was read once is a
  JSON text without blanks around it, and such a text is read as it is wherever it is written.
-/
namespace Switchboard.Json

open Switchboard.Decimal (spanDigits spanSign)

/-! ## Pieces -/

/-- A piece that is passed over whatever follows it, if the fuel is enough for its length. -/
def Passes (f : List Char → Except Fault (List Char)) (fuel : Nat) (p : List Char) : Prop :=
  p.length ≤ fuel → ∀ r, Stops r → f (p ++ r) = .ok r

/-- Wherever `f` comes to an end, it has passed over a piece that `g` passes over anywhere. -/
def Carries (f g : List Char → Except Fault (List Char)) (fuel : Nat) : Prop :=
  ∀ s r, f s = .ok r → ∃ p, s = p ++ r ∧ p ≠ [] ∧ Passes g fuel p

/-- What was not at the front before a rest is not there before another rest that stops. -/
theorem not_head_append {P : Char → Prop} {p r : List Char} (h : ∀ c ∈ (p ++ r).head?, ¬P c)
    (hP : ∀ c, P c → inNumber c = true) {r' : List Char} (hr' : Stops r') :
    ∀ c ∈ (p ++ r').head?, ¬P c := by
  cases p with
  | cons d p => exact h
  | nil =>
    cases r' with
    | nil => nofun
    | cons d r' =>
      intro c hc hPc
      cases hc
      rw [Stops, hP d hPc] at hr'
      cases hr'

/-- The blanks that are skipped are skipped whatever follows the first character after them. -/
theorem skipBlanks_eq_cons {s r : List Char} {c : Char} (h : skipBlanks s = c :: r) :
    ∃ b, s = b ++ c :: r ∧ ∀ r', skipBlanks (b ++ c :: r') = c :: r' := by
  induction s with
  | nil => cases h
  | cons d s ih =>
    by_cases hd : isBlank d = true
    · have hskip : ∀ s, skipBlanks (d :: s) = skipBlanks s := fun s => by
        rw [skipBlanks, List.dropWhile_cons, if_pos hd, skipBlanks]
      rw [hskip] at h
      obtain ⟨b, hs, hb⟩ := ih h
      exact ⟨d :: b, congrArg (d :: ·) hs, fun r' => (hskip _).trans (hb r')⟩
    · have hd : isBlank d = false := Bool.eq_false_iff.mpr hd
      rw [skipBlanks_cons hd] at h
      obtain ⟨rfl, rfl⟩ := List.cons.inj h
      exact ⟨[], rfl, skipBlanks_cons hd⟩

theorem isBlank_of_skipBlanks {s r : List Char} {c : Char} (h : skipBlanks s = c :: r) :
    isBlank c = false := by
  have := List.head?_dropWhile_not isBlank s
  rw [show s.dropWhile isBlank = c :: r from h] at this
  exact this

theorem skipBlanks_skipBlanks (s : List Char) : skipBlanks (skipBlanks s) = skipBlanks s := by
  cases h : skipBlanks s with
  | nil => rfl
  | cons c r => exact skipBlanks_cons (isBlank_of_skipBlanks h) r

/-- Blanks do not belong to a number either. -/
theorem Stops.of_skipBlanks {s : List Char} (h : Stops (skipBlanks s)) : Stops s := by
  cases s with
  | nil => trivial
  | cons c s =>
    by_cases hc : isBlank c = true
    · simp only [isBlank, Bool.or_eq_true, beq_iff_eq] at hc
      obtain ((rfl | rfl) | rfl) | rfl := hc <;> rfl
    · rw [skipBlanks_cons (Bool.eq_false_iff.mpr hc)] at h
      exact h

/-! ## Words and strings -/

theorem eq_append_of_word {w s r : List Char} (h : word w s = .ok r) : s = w ++ r := by
  induction w generalizing s with
  | nil =>
    cases h
    rfl
  | cons a w ih =>
    cases s with
    | nil => cases h
    | cons c s =>
      rw [word] at h
      split at h
      · next hc => rw [hc, ih h, List.cons_append]
      · cases h

theorem eq_append_of_fourDigits {s r : List Char} {n : Nat} (h : fourDigits s = .ok (n, r)) :
    ∃ ds, s = ds ++ r ∧ fourDigits ds = .ok (n, []) := by
  unfold fourDigits at h
  split at h
  · next a b c d r' =>
    split at h
    · next ha hb hc hd =>
      cases h
      refine ⟨[a, b, c, d], rfl, ?_⟩
      simp only [fourDigits, ha, hb, hc, hd]
    · cases h
  · cases h

/-- An escape is passed over whatever follows it. -/
theorem eq_append_of_passEscape {s r : List Char} (h : passEscape s = .ok r) :
    ∃ p, s = p ++ r ∧ p ≠ [] ∧ ∀ r', passEscape (p ++ r') = .ok r' := by
  unfold passEscape at h
  split at h
  · cases h
  · next s =>
    obtain ⟨⟨n, r⟩, hread, hr⟩ := bind_eq_ok.mp h
    cases hr
    obtain ⟨ds, rfl, hds⟩ := eq_append_of_fourDigits hread
    refine ⟨'u' :: ds, rfl, List.cons_ne_nil _ _, fun r' => ?_⟩
    simp only [List.cons_append, passEscape, fourDigits_append hds, bind, Except.bind]
  · next c s hu =>
    split at h
    · next e he =>
      cases h
      refine ⟨[c], rfl, List.cons_ne_nil _ _, fun r' => ?_⟩
      unfold passEscape
      split
      · next hnil => cases hnil
      · next hcons => exact absurd (List.cons.inj hcons).1 hu
      · next hcons =>
        obtain ⟨rfl, rfl⟩ := List.cons.inj hcons
        rw [he]
        rfl
    · cases h

/-- The characters of a string are passed over whatever follows, with any fuel that is enough. -/
theorem eq_append_of_passChars {n : Nat} {s r : List Char} (h : passChars n s = .ok r) :
    ∃ p, s = p ++ r ∧ p ≠ [] ∧ ∀ m r', p.length ≤ m → passChars m (p ++ r') = .ok r' := by
  induction n generalizing s with
  | zero => cases h
  | succ n ih =>
    cases s with
    | nil => cases h
    | cons c s =>
      unfold passChars at h
      -- Every case takes `c` first, so the fuel is not empty.
      split at h
      · next hquote =>
        cases h
        refine ⟨[c], rfl, List.cons_ne_nil _ _, fun m r' hm => ?_⟩
        obtain ⟨m, rfl⟩ := Nat.exists_eq_add_one_of_ne_zero (Nat.ne_zero_of_lt hm)
        rw [List.cons_append, passChars, if_pos hquote, List.nil_append]
      · next hquote =>
        split at h
        · next hback =>
          obtain ⟨s', hescape, hrest⟩ := bind_eq_ok.mp h
          obtain ⟨e, rfl, -, he⟩ := eq_append_of_passEscape hescape
          obtain ⟨p, rfl, -, hp⟩ := ih hrest
          refine ⟨c :: e ++ p, by simp, List.cons_ne_nil _ _, fun m r' hm => ?_⟩
          obtain ⟨m, rfl⟩ := Nat.exists_eq_add_one_of_ne_zero (Nat.ne_zero_of_lt hm)
          have hle : p.length ≤ m := by
            rw [List.length_append, List.length_cons] at hm
            omega
          rw [List.append_assoc, List.cons_append, passChars, if_neg hquote, if_pos hback, he]
          exact hp m r' hle
        · next hback =>
          split at h
          · cases h
          · next hcontrol =>
            obtain ⟨p, rfl, -, hp⟩ := ih h
            refine ⟨c :: p, rfl, List.cons_ne_nil _ _, fun m r' hm => ?_⟩
            obtain ⟨m, rfl⟩ := Nat.exists_eq_add_one_of_ne_zero (Nat.ne_zero_of_lt hm)
            rw [List.cons_append, passChars, if_neg hquote, if_neg hback, if_neg hcontrol]
            exact hp m r' (Nat.le_of_succ_le_succ hm)

theorem eq_append_of_passString {s r : List Char} (h : passString s = .ok r) :
    ∃ p, s = p ++ r ∧ p ≠ [] ∧ ∀ r', passString (p ++ r') = .ok r' := by
  obtain ⟨p, hs, hne, hp⟩ := eq_append_of_passChars h
  refine ⟨p, hs, hne, fun r' => hp _ r' ?_⟩
  rw [List.length_append]
  exact Nat.le_add_right _ _

/-! ## Numbers -/

theorem isDigit_inNumber {c : Char} (h : c.isDigit = true) : inNumber c = true := by
  simp [inNumber, h]

/-- No digit follows the digits at the front. -/
theorem head_spanDigits (s : List Char) : ∀ c ∈ (spanDigits s).2.head?, ¬c.isDigit = true := by
  intro c hc
  have := List.head?_dropWhile_not Char.isDigit s
  simp only [spanDigits] at hc
  rw [hc] at this
  simpa using this

/-- The digits at the front are split off again when another text follows what comes after them. -/
theorem spanDigits_again {s ds p r r' : List Char} (h : spanDigits s = (ds, p ++ r))
    (hr' : Stops r') : spanDigits (ds ++ (p ++ r')) = (ds, p ++ r') := by
  have hhead := head_spanDigits s
  have hdigits := fun c => Decimal.isDigit_of_mem_spanDigits (s := s) (c := c)
  rw [h] at hhead hdigits
  have hstop := not_head_append hhead (fun c => isDigit_inNumber) hr'
  exact Decimal.spanDigits_digits hdigits (fun c hc => Bool.eq_false_iff.mpr (hstop c hc))

theorem spanSign_of_digit {c : Char} (hc : c.isDigit = true) (s : List Char) :
    spanSign (c :: s) = (false, c :: s) := by
  unfold spanSign
  split
  · next h => obtain ⟨rfl, rfl⟩ := List.cons.inj h; cases hc
  · next h => obtain ⟨rfl, rfl⟩ := List.cons.inj h; cases hc
  · rfl

/-- A sign is split off whatever follows it. -/
theorem spanSign_append {s r : List Char} {c : Char} {negative : Bool} (hc : c.isDigit = true)
    (h : spanSign s = (negative, c :: r)) :
    ∃ p, s = p ++ c :: r ∧ ∀ r', spanSign (p ++ c :: r') = (negative, c :: r') := by
  unfold spanSign at h
  split at h
  · cases h
    exact ⟨['+'], rfl, fun _ => rfl⟩
  · cases h
    exact ⟨['-'], rfl, fun _ => rfl⟩
  · cases h
    exact ⟨[], rfl, spanSign_of_digit hc⟩

theorem eq_append_of_passExponent {s r : List Char} (h : passExponent s = .ok r) :
    ∃ p, s = p ++ r ∧ ∀ r', Stops r' → passExponent (p ++ r') = .ok r' := by
  unfold passExponent at h
  rcases hsign : spanSign s with ⟨negative, t⟩
  rw [hsign] at h
  dsimp only at h
  split at h
  · cases h
  · next c t =>
    split at h
    · next hc =>
      cases h
      obtain ⟨p, hs, hp⟩ := spanSign_append hc hsign
      refine ⟨p ++ c :: (spanDigits t).1, ?_, fun r' hr' => ?_⟩
      · rw [List.append_assoc, List.cons_append, Decimal.spanDigits_append, hs]
      · have hspan := @spanDigits_again t (spanDigits t).1 [] _ r' rfl hr'
        rw [List.nil_append] at hspan
        rw [List.append_assoc, List.cons_append, passExponent, hp]
        dsimp only
        rw [if_pos hc, hspan]
    · cases h

theorem passExponent?_of_stops {s : List Char} (h : Stops s) : passExponent? s = .ok s := by
  unfold passExponent?
  split
  · rfl
  · next c r =>
    rw [if_neg]
    rintro (rfl | rfl) <;> cases h

theorem eq_append_of_passExponent? {s r : List Char} (h : passExponent? s = .ok r) :
    ∃ p, s = p ++ r ∧ ∀ r', Stops r' → passExponent? (p ++ r') = .ok r' := by
  cases s with
  | nil =>
    cases h
    exact ⟨[], rfl, fun r' hr' => passExponent?_of_stops hr'⟩
  | cons c s =>
    rw [passExponent?] at h
    split at h
    · next hc =>
      obtain ⟨p, rfl, hp⟩ := eq_append_of_passExponent h
      refine ⟨c :: p, rfl, fun r' hr' => ?_⟩
      rw [List.cons_append, passExponent?, if_pos hc]
      exact hp r' hr'
    · cases h
      exact ⟨[], rfl, fun r' hr' => passExponent?_of_stops hr'⟩

theorem passFraction?_of_ne {s : List Char} (h : ∀ c ∈ s.head?, ¬c = '.') :
    passFraction? s = passExponent? s := by
  unfold passFraction?
  split
  · exact absurd rfl (h '.' rfl)
  · rfl

theorem eq_append_of_passFraction? {s r : List Char} (h : passFraction? s = .ok r) :
    ∃ p, s = p ++ r ∧ ∀ r', Stops r' → passFraction? (p ++ r') = .ok r' := by
  by_cases hpoint : ∃ t, s = '.' :: t
  · obtain ⟨t, rfl⟩ := hpoint
    rw [passFraction?] at h
    have hsplit := Decimal.spanDigits_append t
    rcases hspan : spanDigits t with ⟨ds, u⟩
    rw [hspan] at h hsplit
    cases ds with
    | nil => cases h
    | cons d ds =>
      obtain ⟨p, rfl, hp⟩ := eq_append_of_passExponent? h
      refine ⟨'.' :: (d :: ds ++ p), ?_, fun r' hr' => ?_⟩
      · simp [← hsplit]
      · rw [List.cons_append, List.append_assoc, passFraction?, spanDigits_again hspan hr']
        exact hp r' hr'
  · have hne : ∀ c ∈ s.head?, ¬c = '.' := by
      rintro c hc rfl
      obtain ⟨t, rfl⟩ := List.head?_eq_some_iff.mp hc
      exact hpoint ⟨t, rfl⟩
    rw [passFraction?_of_ne hne] at h
    obtain ⟨p, rfl, hp⟩ := eq_append_of_passExponent? h
    refine ⟨p, rfl, fun r' hr' => ?_⟩
    rw [passFraction?_of_ne (not_head_append hne (by rintro _ rfl; rfl) hr')]
    exact hp r' hr'

theorem passNumber_digit {c : Char} (hc : c.isDigit = true) (hzero : c ≠ '0') (s : List Char) :
    passNumber (c :: s) = passFraction? (spanDigits s).2 := by
  unfold passNumber
  split
  · next h => cases h
  · next h => exact absurd (List.cons.inj h).1 hzero
  · next h =>
    obtain ⟨rfl, rfl⟩ := List.cons.inj h
    rw [if_pos hc]

theorem passNumber_zero {s : List Char} (h : ∀ c ∈ s.head?, ¬c.isDigit = true) :
    passNumber ('0' :: s) = passFraction? s := by
  cases s with
  | nil => rfl
  | cons d s =>
    rw [passNumber]
    exact if_neg (h d rfl)

theorem eq_append_of_passNumber {c : Char} {s r : List Char} (h : passNumber (c :: s) = .ok r) :
    ∃ p, s = p ++ r ∧ ∀ r', Stops r' → passNumber (c :: (p ++ r')) = .ok r' := by
  by_cases hzero : c = '0'
  · cases hzero
    have hhead : ∀ d ∈ s.head?, ¬d.isDigit = true := by
      intro d hd hdigit
      obtain ⟨t, rfl⟩ := List.head?_eq_some_iff.mp hd
      rw [passNumber, if_pos hdigit] at h
      cases h
    rw [passNumber_zero hhead] at h
    obtain ⟨p, rfl, hp⟩ := eq_append_of_passFraction? h
    refine ⟨p, rfl, fun r' hr' => ?_⟩
    rw [passNumber_zero (not_head_append hhead (fun d => isDigit_inNumber) hr')]
    exact hp r' hr'
  · have hc : c.isDigit = true := by
      unfold passNumber at h
      split at h
      · next hnil => cases hnil
      · next hcons => exact absurd (List.cons.inj hcons).1 hzero
      · next hcons =>
        obtain ⟨rfl, rfl⟩ := List.cons.inj hcons
        split at h
        · next hc => exact hc
        · cases h
    rw [passNumber_digit hc hzero] at h
    obtain ⟨p, hrest, hp⟩ := eq_append_of_passFraction? h
    have hspan : spanDigits s = ((spanDigits s).1, p ++ r) := by rw [← hrest]
    refine ⟨(spanDigits s).1 ++ p, ?_, fun r' hr' => ?_⟩
    · rw [List.append_assoc, ← hrest, Decimal.spanDigits_append]
    · rw [passNumber_digit hc hzero, List.append_assoc, spanDigits_again hspan hr']
      exact hp r' hr'

/-! ## Lists and objects -/

section

variable {v w : List Char → Except Fault (List Char)} {fuel : Nat}

/-- The rest of a list starts with a blank, a comma or the bracket, so it stops the item before. -/
theorem eq_append_of_passItems (hv : Carries v w fuel) {close : Closing}
    (hclose : inNumber close.bracket = false) {n : Nat} {s r : List Char}
    (h : passItems close v n s = .ok r) :
    ∃ p, s = p ++ r ∧ p ≠ [] ∧ Stops p ∧
      ∀ m, p.length ≤ m → Passes (passItems close w m) fuel p := by
  induction n generalizing s with
  | zero => cases h
  | succ n ih =>
    unfold passItems at h
    split at h
    · cases h
    · next c t hskip =>
      obtain ⟨b, rfl, hb⟩ := skipBlanks_eq_cons hskip
      -- The first character after the blanks stops a number, and takes some of the fuel.
      have hstops : inNumber c = false → ∀ q, Stops (b ++ c :: q) := by
        intro hc q
        apply Stops.of_skipBlanks
        rw [hb]
        exact hc
      have hfuel : ∀ {q m}, (b ++ c :: q).length ≤ m → ∃ k, m = k + 1 ∧ q.length ≤ k := by
        intro q m hm
        rw [List.length_append, List.length_cons] at hm
        exact ⟨m - 1, by omega, by omega⟩
      split at h
      · next hc =>
        cases h
        refine ⟨b ++ [c], by simp, by simp, hstops (hc ▸ hclose) [], fun m hm _ r' _ => ?_⟩
        obtain ⟨k, rfl, -⟩ := hfuel hm
        rw [List.append_assoc, List.cons_append, List.nil_append, passItems, hb]
        exact if_pos hc
      · next hc =>
        split at h
        · next hcomma =>
          obtain ⟨u, hvalue, hitems⟩ := bind_eq_ok.mp h
          obtain ⟨p, rfl, -, hp⟩ := hv _ _ hvalue
          obtain ⟨q, rfl, hne, hstop, hq⟩ := ih hitems
          refine ⟨b ++ c :: (p ++ q), by simp, by simp, hstops (hcomma ▸ rfl) _,
            fun m hm hle r' hr' => ?_⟩
          obtain ⟨k, rfl, hk⟩ := hfuel hm
          obtain ⟨l, rfl, hl⟩ := hfuel hle
          rw [List.length_append] at hk hl
          rw [List.append_assoc, List.cons_append, passItems, hb]
          dsimp only
          rw [if_neg hc, if_pos hcomma, List.append_assoc,
            hp (by omega) (q ++ r') (hstop.append hne r')]
          exact hq k (by omega) (by omega) r' hr'
        · cases h

theorem carries_passAll (hv : Carries v w fuel) {close : Closing}
    (hclose : inNumber close.bracket = false) :
    Carries (passAll close v) (passAll close w) fuel := by
  intro s r h
  unfold passAll at h
  split at h
  · cases h
  · next c t hskip =>
    obtain ⟨b, hs, hb⟩ := skipBlanks_eq_cons hskip
    split at h
    · next hc =>
      cases h
      refine ⟨b ++ [c], by simp [hs], by simp, fun _ r' _ => ?_⟩
      rw [List.append_assoc, List.cons_append, List.nil_append, passAll, hb]
      exact if_pos hc
    · next hc =>
      obtain ⟨u, hvalue, hitems⟩ := bind_eq_ok.mp h
      obtain ⟨p, hp, hne, hpass⟩ := hv _ _ hvalue
      obtain ⟨q, rfl, hqne, hstop, hq⟩ := eq_append_of_passItems hv hclose hitems
      obtain ⟨d, p, rfl⟩ := List.exists_cons_of_ne_nil hne
      obtain ⟨rfl, rfl⟩ := List.cons.inj hp
      refine ⟨b ++ (c :: p ++ q), by simp [hs], by simp, fun hle r' hr' => ?_⟩
      rw [List.length_append, List.length_append] at hle
      rw [List.append_assoc, List.append_assoc, List.cons_append, passAll, hb]
      dsimp only
      rw [if_neg hc, ← List.cons_append, hpass (by omega) (q ++ r') (hstop.append hqne r')]
      refine hq _ ?_ (by omega) r' hr'
      simp only [List.length_append]
      omega

theorem carries_passMember (hv : Carries v w fuel) :
    Carries (passMember v) (passMember w) fuel := by
  intro s r h
  unfold passMember at h
  split at h
  · cases h
  · next c t hskip =>
    obtain ⟨b, rfl, hb⟩ := skipBlanks_eq_cons hskip
    split at h
    · next hquote =>
      obtain ⟨u, hstring, hrest⟩ := bind_eq_ok.mp h
      obtain ⟨p, rfl, -, hp⟩ := eq_append_of_passString hstring
      split at hrest
      · cases hrest
      · next d u hskip' =>
        obtain ⟨b', rfl, hb'⟩ := skipBlanks_eq_cons hskip'
        split at hrest
        · next hcolon =>
          obtain ⟨q, rfl, -, hq⟩ := hv _ _ hrest
          refine ⟨b ++ c :: (p ++ (b' ++ d :: q)), by simp, by simp, fun hle r' hr' => ?_⟩
          simp only [List.length_append, List.length_cons] at hle
          simp only [List.append_assoc, List.cons_append, passMember, hb, if_pos hquote, hp, hb',
            bind, Except.bind, if_pos hcolon]
          exact hq (by omega) r' hr'
        · cases hrest
    · cases h

end

/-! ## Values -/

theorem carries_passFrom {v w : List Char → Except Fault (List Char)} {fuel : Nat}
    (hv : Carries v w fuel) : Carries (passFrom v) (passFrom w) (fuel + 1) := by
  intro s r h
  cases s with
  | nil => cases h
  | cons c s =>
    -- One character is taken, and what comes after it is passed over alike.
    suffices hrest : ∃ p, s = p ++ r ∧ (p.length ≤ fuel → ∀ r', Stops r' →
        passFrom w (c :: (p ++ r')) = .ok r') by
      obtain ⟨p, hs, hp⟩ := hrest
      refine ⟨c :: p, congrArg (c :: ·) hs, List.cons_ne_nil _ _, fun hle r' hr' => ?_⟩
      exact hp (Nat.le_of_succ_le_succ hle) r' hr'
    have hword : ∀ x, word x s = .ok r → ∃ p, s = p ++ r ∧ (p.length ≤ fuel → ∀ r', Stops r' →
        word x (p ++ r') = .ok r') :=
      fun x hx => ⟨x, eq_append_of_word hx, fun _ r' _ => word_append x r'⟩
    have hinner : ∀ {f g}, Carries f g fuel → f s = .ok r → ∃ p, s = p ++ r ∧
        (p.length ≤ fuel → ∀ r', Stops r' → g (p ++ r') = .ok r') := fun hfg hf =>
      let ⟨p, hs, _, hp⟩ := hfg s r hf
      ⟨p, hs, hp⟩
    rw [passFrom] at h
    split at h
    · next hc =>
      cases hc
      exact hword _ h
    split at h
    · next hc =>
      cases hc
      exact hword _ h
    split at h
    · next hc =>
      cases hc
      exact hword _ h
    split at h
    · next hc =>
      cases hc
      cases s with
      | nil => cases h
      | cons d s =>
        obtain ⟨p, rfl, hp⟩ := eq_append_of_passNumber h
        exact ⟨d :: p, rfl, fun _ r' hr' => hp r' hr'⟩
    split at h
    · next hn ht hf hm hc =>
      obtain ⟨p, hs, hp⟩ := eq_append_of_passNumber h
      refine ⟨p, hs, fun _ r' hr' => ?_⟩
      rw [passFrom, if_neg hn, if_neg ht, if_neg hf, if_neg hm, if_pos hc]
      exact hp r' hr'
    split at h
    · next hc =>
      cases hc
      obtain ⟨p, hs, -, hp⟩ := eq_append_of_passString h
      exact ⟨p, hs, fun _ r' _ => hp r'⟩
    split at h
    · next hc =>
      cases hc
      exact hinner (carries_passAll hv rfl) h
    split at h
    · next hc =>
      cases hc
      exact hinner (carries_passAll (carries_passMember hv) rfl) h
    · cases h

/-- What is passed over as a value is passed over wherever it stands, with any fuel that is enough
    for its length. -/
theorem carries_passValue (n fuel : Nat) : Carries (passValue n) (passValue fuel) fuel := by
  induction n generalizing fuel with
  | zero => nofun
  | succ n ih =>
    intro s r h
    rw [passValue] at h
    cases hskip : skipBlanks s with
    | nil =>
      rw [hskip] at h
      cases h
    | cons c t =>
      rw [hskip] at h
      obtain ⟨b, rfl, hb⟩ := skipBlanks_eq_cons hskip
      obtain ⟨p, hp, hne, hpass⟩ := carries_passFrom (ih (fuel - 1)) _ _ h
      obtain ⟨d, p, rfl⟩ := List.exists_cons_of_ne_nil hne
      obtain ⟨rfl, rfl⟩ := List.cons.inj hp
      refine ⟨b ++ c :: p, by simp, by simp, fun hle r' hr' => ?_⟩
      rw [List.length_append, List.length_cons] at hle
      obtain ⟨fuel, rfl⟩ := Nat.exists_eq_add_one_of_ne_zero (n := fuel) (by omega)
      rw [List.append_assoc, List.cons_append, passValue, hb]
      exact hpass (by rw [List.length_cons]; omega) r' hr'

theorem eq_append_of_passValue {n : Nat} {s r : List Char} (h : passValue n s = .ok r) :
    ∃ p, s = p ++ r ∧ p ≠ [] ∧ ∀ fuel, Passes (passValue fuel) fuel p := by
  obtain ⟨p, hs, hne, -⟩ := carries_passValue n 0 s r h
  refine ⟨p, hs, hne, fun fuel => ?_⟩
  obtain ⟨q, hq, -, hpass⟩ := carries_passValue n fuel s r h
  cases List.append_cancel_right (hs.symm.trans hq)
  exact hpass

/-! ## Blobs -/

/-- A blob is a piece of the text it is read from, and is read alike from any other text. -/
theorem eq_append_of_raw {s r : List Char} {b : Raw} (h : raw s = .ok (b, r)) :
    skipBlanks s = b.text.toList ++ r ∧ Takes raw b.text.toList b := by
  obtain ⟨rest, hpass, hb⟩ := bind_eq_ok.mp h
  cases hb
  obtain ⟨p, hs, hne, hp⟩ := eq_append_of_passValue hpass
  obtain ⟨c, p, rfl⟩ := List.exists_cons_of_ne_nil hne
  have htext : (skipBlanks s).take ((skipBlanks s).length - r.length) = c :: p := by
    rw [hs, List.length_append, Nat.add_sub_cancel, List.take_left]
  rw [htext, String.toList_ofList]
  refine ⟨hs, fun r' hr' => ?_⟩
  have hstart : skipBlanks (c :: p ++ r') = c :: p ++ r' :=
    skipBlanks_cons (isBlank_of_skipBlanks hs) _
  have hpass' : pass (c :: p ++ r') = .ok r' :=
    hp _ (by rw [List.length_append]; omega) r' hr'
  simp only [raw, hstart, hpass', bind, Except.bind, List.length_append, Nat.add_sub_cancel,
    List.take_left]

/-- A JSON text without blanks around it. -/
def Raw.IsJson (b : Raw) : Prop := raw b.text.toList = .ok (b, [])

/-- A blob that can stand where one may be absent: a JSON text other than `null`. -/
structure Raw.Proper (b : Raw) : Prop where
  isJson : b.IsJson
  ne_null : b.text ≠ "null"

theorem Raw.IsJson.takes {b : Raw} (h : b.IsJson) : Takes raw b.text.toList b :=
  (eq_append_of_raw h).2

theorem isJson_of_raw {s r : List Char} {b : Raw} (h : raw s = .ok (b, r)) : b.IsJson := by
  have := (eq_append_of_raw h).2 [] trivial
  rw [List.append_nil] at this
  exact this

/-- Of the JSON texts only `null` starts with its first letter. -/
theorem Raw.Proper.opens {b : Raw} (hproper : b.Proper) : Opens 'n' b.text.toList := by
  obtain ⟨h, hnull⟩ := hproper
  have hskip := (eq_append_of_raw h).1
  rw [List.append_nil] at hskip
  obtain ⟨rest, hpass, hb⟩ := bind_eq_ok.mp h
  have hrest : rest = [] := congrArg Prod.snd (Except.ok.inj hb)
  rw [hrest, pass, passValue, skipBlanks_skipBlanks, hskip] at hpass
  cases htext : b.text.toList with
  | nil =>
    rw [htext] at hpass
    cases hpass
  | cons c t =>
    rw [htext] at hpass hskip
    refine ⟨c, t, rfl, isBlank_of_skipBlanks hskip, ?_⟩
    rintro rfl
    rw [eq_append_of_word hpass] at htext
    exact hnull (String.toList_inj.mp htext)

end Switchboard.Json
