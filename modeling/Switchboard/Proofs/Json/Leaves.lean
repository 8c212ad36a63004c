import Switchboard.Json.Codec
/-
  The leaves of JSON are read as they are written. A reader takes a piece for a value if it does so
  whatever follows, as long as what follows stops the piece; so the pieces of a list or an object
  are read one after the other. `stringTail_written` and `takes_writeInt` are the base of every
  codec.
-/
namespace Switchboard.Json

open Switchboard.Decimal (digitsOf numberOf spanDigits)

theorem bind_eq_ok {ε α β : Type} {x : Except ε α} {f : α → Except ε β} {b : β} :
    (x >>= f) = .ok b ↔ ∃ a, x = .ok a ∧ f a = .ok b := by
  cases x with
  | error e => exact ⟨nofun, nofun⟩
  | ok a => exact ⟨fun h => ⟨a, rfl, h⟩, fun ⟨_, ha, h⟩ => by cases ha; exact h⟩

/-! ## Where a piece ends -/

/-- The characters with which a number could go on. -/
def inNumber (c : Char) : Bool := c.isDigit || c == '.' || c == 'e' || c == 'E'

/-- A text that stops what stands before it: no number goes on into it. -/
def Stops : List Char → Prop
  | [] => True
  | c :: _ => inNumber c = false

theorem Stops.append {p : List Char} (h : Stops p) (hne : p ≠ []) (s : List Char) :
    Stops (p ++ s) := by
  obtain ⟨c, r, rfl⟩ := List.exists_cons_of_ne_nil hne
  exact h

theorem Stops.not_digit {s : List Char} (h : Stops s) : ∀ c ∈ s.head?, c.isDigit = false := by
  cases s with
  | nil => nofun
  | cons d s =>
    intro c hc
    cases hc
    simp only [Stops, inNumber, Bool.or_eq_false_iff] at h
    exact h.1.1.1

/-- The reader takes the piece off the front of a text for the value. -/
def Takes {α : Type} (reader : Reader α) (piece : List Char) (a : α) : Prop :=
  ∀ rest, Stops rest → reader (piece ++ rest) = .ok (a, rest)

/-- The piece starts with a character that is no blank and not the one to be avoided. -/
def Opens (avoided : Char) (piece : List Char) : Prop :=
  ∃ c r, piece = c :: r ∧ isBlank c = false ∧ c ≠ avoided

theorem skipBlanks_cons {c : Char} (h : isBlank c = false) (s : List Char) :
    skipBlanks (c :: s) = c :: s := by
  rw [skipBlanks, List.dropWhile_cons, h]
  rfl

theorem word_append (w s : List Char) : word w (w ++ s) = .ok s := by
  induction w with
  | nil => rfl
  | cons c w ih =>
    rw [List.cons_append, word, if_pos rfl]
    exact ih

/-! ## Strings -/

/-- Four hexadecimal digits are read whatever follows them. -/
theorem fourDigits_append {ds : List Char} {n : Nat} (h : fourDigits ds = .ok (n, []))
    (s : List Char) : fourDigits (ds ++ s) = .ok (n, s) := by
  unfold fourDigits at h
  split at h
  · next a b c d r =>
    split at h
    · next ha hb hc hd =>
      cases h
      simp only [List.cons_append, List.nil_append, fourDigits, ha, hb, hc, hd]
    · cases h
  · cases h

theorem escape_control {c : Char} (h : c.toNat < 0x20) (s : List Char) :
    ∃ ds, controlEscape c = '\\' :: 'u' :: ds ∧ escape ('u' :: (ds ++ s)) = .ok (c, s) := by
  -- There are 32 control characters, and the digits of each are read back.
  have hall : ∀ n < 32,
      (fourDigits ((controlEscape (Char.ofNat n)).drop 2)).toOption = some (n, []) := by decide
  have hdigits := hall c.toNat h
  rw [Char.ofNat_toNat] at hdigits
  refine ⟨(controlEscape c).drop 2, rfl, ?_⟩
  cases hread : fourDigits ((controlEscape c).drop 2) with
  | error fault =>
    rw [hread] at hdigits
    cases hdigits
  | ok p =>
    rw [hread] at hdigits
    cases hdigits
    have hlow : isLowSurrogate c.toNat = false := by
      simp only [isLowSurrogate, Bool.and_eq_false_iff, decide_eq_false_iff_not]
      omega
    have hhigh : isHighSurrogate c.toNat = false := by
      simp only [isHighSurrogate, Bool.and_eq_false_iff, decide_eq_false_iff_not]
      omega
    simp [escape, fourDigits_append hread s, bind, Except.bind, hlow, hhigh, Char.ofNat_toNat]

/-- What stands for a character is read as the character. -/
theorem stringChars_writeChar (c : Char) {fuel : Nat} {s t r : List Char}
    (h : stringChars fuel s = .ok (t, r)) :
    stringChars (fuel + 1) (writeChar c ++ s) = .ok (c :: t, r) := by
  -- A backslash and a letter, where the letter stands for `c`.
  have hletter : ∀ l, escape (l :: s) = .ok (c, s) →
      stringChars (fuel + 1) ('\\' :: l :: s) = .ok (c :: t, r) := by
    intro l hl
    simp [stringChars, hl, h, bind, Except.bind]
  unfold writeChar
  split
  · next hc => exact hletter _ (by subst hc; rfl)
  split
  · next hc => exact hletter _ (by subst hc; rfl)
  split
  · next hc => exact hletter _ (by subst hc; rfl)
  split
  · next hc => exact hletter _ (by subst hc; rfl)
  split
  · next hc => exact hletter _ (by subst hc; rfl)
  split
  · next hc => exact hletter _ (by subst hc; rfl)
  split
  · next hc => exact hletter _ (by subst hc; rfl)
  split
  · next hc =>
    obtain ⟨ds, hds, hescape⟩ := escape_control hc s
    rw [hds]
    simp [stringChars, hescape, h, bind, Except.bind]
  · next hquote hback _ _ _ _ _ hlow =>
    rw [List.cons_append, List.nil_append, stringChars, if_neg hquote, if_neg hback, if_neg hlow, h]
    rfl

theorem stringChars_written (cs : List Char) {fuel : Nat} (h : cs.length < fuel)
    (s : List Char) :
    stringChars fuel (cs.flatMap writeChar ++ '"' :: s) = .ok (cs, s) := by
  induction cs generalizing fuel with
  | nil =>
    obtain ⟨fuel, rfl⟩ := Nat.exists_eq_add_one_of_ne_zero (Nat.ne_of_gt h)
    rfl
  | cons c cs ih =>
    obtain ⟨fuel, rfl⟩ := Nat.exists_eq_add_one_of_ne_zero (Nat.ne_zero_of_lt h)
    rw [List.flatMap_cons, List.append_assoc]
    exact stringChars_writeChar c (ih (Nat.lt_of_succ_lt_succ h))

theorem writeChar_ne_nil (c : Char) : writeChar c ≠ [] := by
  unfold writeChar controlEscape
  repeat' split
  all_goals exact List.cons_ne_nil _ _

theorem length_le_flatMap_writeChar (cs : List Char) :
    cs.length ≤ (cs.flatMap writeChar).length := by
  induction cs with
  | nil => exact Nat.le_refl _
  | cons c cs ih =>
    have := List.length_pos_iff.mpr (writeChar_ne_nil c)
    rw [List.flatMap_cons, List.length_append, List.length_cons]
    omega

/-- A written string is read as the string, whatever follows. -/
theorem stringTail_written (t : String) (s : List Char) :
    stringTail (t.toList.flatMap writeChar ++ '"' :: s) = .ok (t, s) := by
  have hlength := length_le_flatMap_writeChar t.toList
  unfold stringTail
  rw [stringChars_written t.toList (by rw [List.length_append, List.length_cons]; omega)]
  simp only [bind, Except.bind, String.ofList_toList]

/-! ## Numbers -/

/-- The whole numbers that are kept as such. -/
def InRange (n : Int) : Prop := -0x8000000000000000 ≤ n ∧ n < 0x10000000000000000

theorem fraction?_of_stops {s : List Char} (h : Stops s) : fraction? s = .ok (none, s) := by
  unfold fraction?
  split
  · cases h
  · rfl

theorem exponent?_of_stops (isZero : Bool) {s : List Char} (h : Stops s) :
    exponent? isZero s = .ok (none, s) := by
  unfold exponent?
  split
  · rfl
  · next c r =>
    rw [if_neg]
    rintro (rfl | rfl) <;> cases h

theorem numberTail_of_stops (negative : Bool) (ds : List Char) {s : List Char} (h : Stops s) :
    numberTail negative ds s = wholeOrRounded negative (numberOf ds) s := by
  unfold numberTail
  rw [fraction?_of_stops h]
  simp only [bind, Except.bind, exponent?_of_stops _ h, Option.getD_none, List.append_nil]

/-- Digits without a leading zero are read as they are written. -/
theorem unsigned_digits (negative : Bool) {c : Char} {ds : List Char}
    (hdigits : ∀ d ∈ c :: ds, d.isDigit) (hzero : c = '0' → ds = []) {s : List Char}
    (h : Stops s) :
    unsigned negative (c :: (ds ++ s)) = wholeOrRounded negative (numberOf (c :: ds)) s := by
  unfold unsigned
  split
  · next hnil => cases hnil
  · next r hcons =>
    obtain ⟨rfl, rfl⟩ := List.cons.inj hcons
    rw [hzero rfl, List.nil_append]
    cases s with
    | nil => exact numberTail_of_stops negative ['0'] h
    | cons d s =>
      dsimp only
      rw [if_neg (by rw [h.not_digit d rfl]; exact Bool.false_ne_true)]
      exact numberTail_of_stops negative ['0'] h
  · next d r _ hcons =>
    obtain ⟨rfl, rfl⟩ := List.cons.inj hcons
    rw [if_pos (hdigits c List.mem_cons_self), ← List.cons_append,
      Decimal.spanDigits_digits hdigits h.not_digit]
    exact numberTail_of_stops negative (c :: ds) h

theorem unsigned_digitsOf (negative : Bool) (n : Nat) {s : List Char} (h : Stops s) :
    unsigned negative (digitsOf n ++ s) = wholeOrRounded negative n s := by
  obtain ⟨c, ds, hds⟩ := List.exists_cons_of_ne_nil (Decimal.digitsOf_ne_nil n)
  have hdigits : ∀ d ∈ digitsOf n, d.isDigit := fun d hd => Decimal.isDigit_of_mem_digitsOf hd
  have hvalue := Decimal.numberOf_digitsOf n
  have hzero : c = '0' → ds = [] := by
    intro hc
    by_cases hn : n = 0
    · rw [hn, Decimal.digitsOf_zero] at hds
      cases hds
      rfl
    · exact absurd hc (Decimal.head_digitsOf_ne hn hds)
  rw [hds] at hdigits hvalue ⊢
  rw [List.cons_append, unsigned_digits negative hdigits hzero h, hvalue]

/-- Without a minus sign in front, the number is not negative. -/
theorem number_of_digit {c : Char} (hc : c.isDigit) (s : List Char) :
    number (c :: s) = unsigned false (c :: s) := by
  unfold number
  split
  · next hminus =>
    cases hminus
    cases hc
  · rfl

/-- A whole number in the range is read as it is written. -/
theorem takes_writeInt {n : Int} (h : InRange n) :
    Takes number (Decimal.writeInt n) (.whole n) := by
  intro rest hrest
  obtain ⟨hlow, hhigh⟩ := h
  cases n with
  | ofNat n =>
    obtain ⟨c, ds, hds⟩ := List.exists_cons_of_ne_nil (Decimal.digitsOf_ne_nil n)
    have hc : c.isDigit := Decimal.isDigit_of_mem_digitsOf (hds ▸ List.mem_cons_self)
    have hread := unsigned_digitsOf false n hrest
    have hlt : n < 0x10000000000000000 := Int.ofNat_lt.mp hhigh
    rw [wholeOrRounded, if_neg Bool.false_ne_true, if_pos hlt] at hread
    rw [Decimal.writeInt, Int.ofNat_eq_natCast, ← hread, hds, List.cons_append, number_of_digit hc]
  | negSucc n =>
    have hread := unsigned_digitsOf true (n + 1) hrest
    have hle : n + 1 ≤ 0x8000000000000000 := by
      rw [Int.negSucc_eq] at hlow
      omega
    rw [wholeOrRounded, if_pos rfl, if_pos ⟨Nat.succ_ne_zero n, hle⟩] at hread
    exact hread

theorem rounded_ne_whole (negative : Bool) (digits : Nat) (e : Int) (s r : List Char) (n : Int) :
    rounded negative digits e s ≠ .ok (.whole n, r) := by
  intro h
  unfold rounded at h
  split at h <;> cases h

theorem inRange_of_wholeOrRounded {negative : Bool} {m : Nat} {s r : List Char} {n : Int}
    (h : wholeOrRounded negative m s = .ok (.whole n, r)) : InRange n := by
  unfold wholeOrRounded at h
  split at h
  all_goals
    split at h
    · cases h
      exact ⟨by omega, by omega⟩
    · exact absurd h (rounded_ne_whole _ _ _ _ _ _)

theorem inRange_of_numberTail {negative : Bool} {ds s r : List Char} {n : Int}
    (h : numberTail negative ds s = .ok (.whole n, r)) : InRange n := by
  obtain ⟨⟨fraction, s'⟩, -, h⟩ := bind_eq_ok.mp h
  obtain ⟨⟨exponent, s''⟩, -, h⟩ := bind_eq_ok.mp h
  dsimp only at h
  split at h
  · exact inRange_of_wholeOrRounded h
  · exact absurd h (rounded_ne_whole _ _ _ _ _ _)

/-- A whole number that is read is in the range. -/
theorem inRange_of_number {s r : List Char} {n : Int} (h : number s = .ok (.whole n, r)) :
    InRange n := by
  have hunsigned : ∀ {negative s}, unsigned negative s = .ok (.whole n, r) → InRange n := by
    intro negative s h
    unfold unsigned at h
    split at h
    · cases h
    · split at h
      · split at h
        · cases h
        · exact inRange_of_numberTail h
      · exact inRange_of_numberTail h
    · split at h
      · exact inRange_of_numberTail h
      · cases h
  unfold number at h
  split at h
  · exact hunsigned h
  · exact hunsigned h

end Switchboard.Json
