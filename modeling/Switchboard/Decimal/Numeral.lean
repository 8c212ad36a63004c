/-
  Decimal numerals: the digits of a number, and the pieces of a numeral at the front of a text.
-/
namespace Switchboard.Decimal

/-- The decimal digits of a natural number. -/
def digitsOf (n : Nat) : List Char := Nat.toDigits 10 n

/-- The decimal digits of an integer, after a minus sign if it is negative. -/
def writeInt : Int → List Char
  | .ofNat n => digitsOf n
  | .negSucc n => '-' :: digitsOf (n + 1)

/-- The number that decimal digits write. -/
def numberOf (ds : List Char) : Nat :=
  ds.foldl (fun n c => 10 * n + (c.toNat - '0'.toNat)) 0

/-- Splits off a sign; `true` is minus. -/
def spanSign : List Char → Bool × List Char
  | '+' :: r => (false, r)
  | '-' :: r => (true, r)
  | r => (false, r)

/-- Splits off the digits at the front. -/
def spanDigits (s : List Char) : List Char × List Char :=
  (s.takeWhile Char.isDigit, s.dropWhile Char.isDigit)

/-- Nothing is lost when the digits are split off. -/
theorem spanDigits_append (s : List Char) : (spanDigits s).1 ++ (spanDigits s).2 = s :=
  List.takeWhile_append_dropWhile

/-- Only digits are split off. -/
theorem isDigit_of_mem_spanDigits {s : List Char} {c : Char} (h : c ∈ (spanDigits s).1) :
    c.isDigit := by
  induction s with
  | nil => simp [spanDigits] at h
  | cons a s ih =>
    by_cases ha : a.isDigit
    · simp only [spanDigits, List.takeWhile_cons, ha, if_true, List.mem_cons] at h
      rcases h with rfl | h
      · exact ha
      · exact ih h
    · simp [spanDigits, ha] at h

theorem digitsOf_ne_nil (n : Nat) : digitsOf n ≠ [] := Nat.toDigits_ne_nil

theorem isDigit_of_mem_digitsOf {n : Nat} {c : Char} (h : c ∈ digitsOf n) : c.isDigit :=
  Nat.isDigit_of_mem_toDigits (by decide) (by decide) h

theorem numberOf_digitsOf (n : Nat) : numberOf (digitsOf n) = n := by
  have h := Nat.ofDigitChars_ten_toDigits (n := n)
  rw [Nat.ofDigitChars_eq_foldl] at h
  exact h

theorem digitsOf_zero : digitsOf 0 = ['0'] := Nat.toDigits_zero 10

/-- The digits of a positive number do not start with a zero. -/
theorem head_digitsOf_ne {n : Nat} (h : n ≠ 0) {c : Char} {ds : List Char}
    (hds : digitsOf n = c :: ds) : c ≠ '0' := by
  induction n using Nat.strongRecOn generalizing ds with
  | ind n ih =>
    by_cases hlt : n < 10
    · rw [digitsOf, Nat.toDigits_of_lt_base hlt] at hds
      cases hds
      have : ∀ m < 10, m ≠ 0 → Nat.digitChar m ≠ '0' := by decide
      exact this n hlt h
    · rw [digitsOf, Nat.toDigits_of_base_le (by decide) (by omega)] at hds
      obtain ⟨d, es, hes⟩ := List.exists_cons_of_ne_nil (digitsOf_ne_nil (n / 10))
      rw [show Nat.toDigits 10 (n / 10) = d :: es from hes] at hds
      cases hds
      exact ih (n / 10) (by omega) (by omega) hes

/-- Digits before anything that is no digit are split off as they stand. -/
theorem spanDigits_digits {ds s : List Char} (hds : ∀ c ∈ ds, c.isDigit)
    (hs : ∀ c ∈ s.head?, c.isDigit = false) : spanDigits (ds ++ s) = (ds, s) := by
  have hstop : s.takeWhile Char.isDigit = [] ∧ s.dropWhile Char.isDigit = s := by
    cases s with
    | nil => exact ⟨rfl, rfl⟩
    | cons c s => simp [hs c rfl]
  unfold spanDigits
  rw [List.takeWhile_append_of_pos hds, List.dropWhile_append_of_pos hds, hstop.1, hstop.2,
    List.append_nil]

end Switchboard.Decimal
