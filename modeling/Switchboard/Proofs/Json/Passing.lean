import Switchboard.Proofs.Json.Blobs
/-
  Passing over values. What is passed over comes off the front of the text, and more fuel passes over
  no less (`extends_passValue`), so a value is passed over with any fuel beyond its length. A string
  that is read is passed over too (`passString_of_stringTail`), and ends at the same place.
-/
namespace Switchboard.Json

/-! ## Lengths -/

theorem length_skipBlanks_le (s : List Char) : (skipBlanks s).length ≤ s.length :=
  (List.dropWhile_suffix isBlank).length_le

theorem suffix_of_skipBlanks {s r : List Char} {c : Char} (h : skipBlanks s = c :: r) : r <:+ s := by
  obtain ⟨b, rfl, -⟩ := skipBlanks_eq_cons h
  exact (List.suffix_cons c r).trans (List.suffix_append b _)

theorem length_of_skipBlanks {s r : List Char} {c : Char} (h : skipBlanks s = c :: r) :
    r.length < s.length := by
  have hle := length_skipBlanks_le s
  rw [h, List.length_cons] at hle
  exact hle

theorem length_lt_of_append {s p r : List Char} (h : s = p ++ r) (hne : p ≠ []) :
    r.length < s.length := by
  have := List.length_pos_iff.mpr hne
  rw [h, List.length_append]
  omega

theorem length_of_pass {s r : List Char} (h : pass s = .ok r) : r.length < s.length :=
  let ⟨_, hs, hne, _⟩ := eq_append_of_passValue h
  length_lt_of_append hs hne

theorem length_of_passEscape {s r : List Char} (h : passEscape s = .ok r) : r.length < s.length :=
  let ⟨_, hs, hne, _⟩ := eq_append_of_passEscape h
  length_lt_of_append hs hne

theorem length_of_passString {s r : List Char} (h : passString s = .ok r) : r.length < s.length :=
  let ⟨_, hs, hne, _⟩ := eq_append_of_passString h
  length_lt_of_append hs hne

theorem length_of_passMember {s r : List Char} {n : Nat} (h : passMember (passValue n) s = .ok r) :
    r.length < s.length :=
  let ⟨_, hs, hne, _⟩ := carries_passMember (carries_passValue n 0) s r h
  length_lt_of_append hs hne

theorem suffix_of_pass {s r : List Char} (h : pass s = .ok r) : r <:+ s := by
  obtain ⟨p, rfl, -, -⟩ := eq_append_of_passValue h
  exact List.suffix_append p r

/-! ## Strings

A string that is read is also passed over. The reader takes a surrogate pair in one step, where
passing over takes two. -/

theorem passEscape_of_escape {s r : List Char} {e : Char} (h : escape s = .ok (e, r)) :
    passEscape s = .ok r ∨ ∃ u, passEscape s = .ok ('\\' :: u) ∧ passEscape u = .ok r := by
  unfold escape at h
  split at h
  · cases h
  · next s =>
    obtain ⟨⟨n, t⟩, hdigits, h⟩ := bind_eq_ok.mp h
    have hfirst : passEscape ('u' :: s) = .ok t := bind_eq_ok.mpr ⟨_, hdigits, rfl⟩
    dsimp only at h
    split at h
    · cases h
    split at h
    · unfold surrogateTail at h
      split at h
      · cases h
      · cases h
      · next t =>
        obtain ⟨⟨low, u⟩, hlow, h⟩ := bind_eq_ok.mp h
        dsimp only at h
        split at h
        · obtain ⟨-, rfl⟩ := Prod.mk.inj (Except.ok.inj h)
          exact .inr ⟨'u' :: t, hfirst, bind_eq_ok.mpr ⟨_, hlow, rfl⟩⟩
        · cases h
      · cases h
      · cases h
    · cases h
      exact .inl hfirst
  · next c s hu =>
    left
    unfold passEscape
    split
    · next hnil => cases hnil
    · next hcons => exact absurd (List.cons.inj hcons).1 hu
    · next hcons =>
      obtain ⟨rfl, rfl⟩ := List.cons.inj hcons
      cases he : escapeLetter? c with
      | none =>
        rw [he] at h
        cases h
      | some d =>
        rw [he] at h
        cases h
        rfl

theorem passChars_of_stringChars {n m : Nat} {s r t : List Char}
    (h : stringChars n s = .ok (t, r)) (hm : s.length ≤ m) : passChars m s = .ok r := by
  induction n generalizing s t m with
  | zero => cases h
  | succ n ih =>
    cases s with
    | nil => cases h
    | cons c s =>
      obtain ⟨m, rfl⟩ := Nat.exists_eq_add_one_of_ne_zero (Nat.ne_zero_of_lt hm)
      have hm : s.length ≤ m := Nat.le_of_succ_le_succ hm
      unfold stringChars at h
      unfold passChars
      split at h
      · next hquote =>
        cases h
        rw [if_pos hquote]
      · next hquote =>
        rw [if_neg hquote]
        split at h
        · next hback =>
          obtain ⟨⟨e, u⟩, hescape, h⟩ := bind_eq_ok.mp h
          obtain ⟨⟨t, w⟩, hrest, h⟩ := bind_eq_ok.mp h
          cases h
          rw [if_pos hback]
          rcases passEscape_of_escape hescape with hpass | ⟨v, hfirst, hsecond⟩
          · have := length_of_passEscape hpass
            exact bind_eq_ok.mpr ⟨u, hpass, ih hrest (by omega)⟩
          · -- The second half of a pair takes a step of its own.
            have hv := length_of_passEscape hfirst
            have hu := length_of_passEscape hsecond
            rw [List.length_cons] at hv
            obtain ⟨m, rfl⟩ := Nat.exists_eq_add_one_of_ne_zero (n := m) (by omega)
            refine bind_eq_ok.mpr ⟨_, hfirst, ?_⟩
            rw [passChars, if_neg (by decide), if_pos rfl]
            exact bind_eq_ok.mpr ⟨u, hsecond, ih hrest (by omega)⟩
        · next hback =>
          rw [if_neg hback]
          split at h
          · cases h
          · next hcontrol =>
            obtain ⟨⟨t, w⟩, hrest, h⟩ := bind_eq_ok.mp h
            cases h
            rw [if_neg hcontrol]
            exact ih hrest hm

theorem passString_of_stringTail {s r : List Char} {t : String} (h : stringTail s = .ok (t, r)) :
    passString s = .ok r := by
  obtain ⟨⟨cs, u⟩, hchars, h⟩ := bind_eq_ok.mp h
  cases h
  exact passChars_of_stringChars hchars (Nat.le_refl _)

/-! ## Fuel

More fuel passes over no less. -/

/-- Wherever `f` comes to an end, `g` comes to the same one. -/
def Extends (f g : List Char → Except Fault (List Char)) : Prop :=
  ∀ ⦃s r⦄, f s = .ok r → g s = .ok r

section

variable {v w : List Char → Except Fault (List Char)}

theorem extends_passItems (h : Extends v w) (close : Closing) (n : Nat) :
    Extends (passItems close v n) (passItems close w n) := by
  intro s r hpass
  induction n generalizing s with
  | zero => cases hpass
  | succ n ih =>
    unfold passItems at hpass ⊢
    split at hpass
    · cases hpass
    · split at hpass
      · next hclose =>
        rw [if_pos hclose]
        exact hpass
      · next hclose =>
        rw [if_neg hclose]
        split at hpass
        · next hcomma =>
          obtain ⟨u, hvalue, hrest⟩ := bind_eq_ok.mp hpass
          rw [if_pos hcomma]
          exact bind_eq_ok.mpr ⟨u, h hvalue, ih hrest⟩
        · cases hpass

theorem extends_passAll (h : Extends v w) (close : Closing) :
    Extends (passAll close v) (passAll close w) := by
  intro s r hpass
  unfold passAll at hpass ⊢
  split at hpass
  · cases hpass
  · split at hpass
    · next hclose =>
      rw [if_pos hclose]
      exact hpass
    · next hclose =>
      obtain ⟨u, hvalue, hrest⟩ := bind_eq_ok.mp hpass
      rw [if_neg hclose]
      exact bind_eq_ok.mpr ⟨u, h hvalue, extends_passItems h close _ hrest⟩

theorem extends_passMember (h : Extends v w) : Extends (passMember v) (passMember w) := by
  intro s r hpass
  unfold passMember at hpass ⊢
  split at hpass
  · cases hpass
  · split at hpass
    · next hquote =>
      obtain ⟨u, hstring, hrest⟩ := bind_eq_ok.mp hpass
      rw [if_pos hquote]
      refine bind_eq_ok.mpr ⟨u, hstring, ?_⟩
      split at hrest
      · cases hrest
      · split at hrest
        · next hcolon =>
          rw [if_pos hcolon]
          exact h hrest
        · cases hrest
    · cases hpass

theorem ite_eq_ok {ε α : Type} {p : Prop} [Decidable p] {x x' y y' : Except ε α} {a : α}
    (hx : x = .ok a → x' = .ok a) (hy : y = .ok a → y' = .ok a)
    (h : (if p then x else y) = .ok a) : (if p then x' else y') = .ok a := by
  split
  · next hp => exact hx (by rwa [if_pos hp] at h)
  · next hp => exact hy (by rwa [if_neg hp] at h)

theorem extends_passFrom (h : Extends v w) : Extends (passFrom v) (passFrom w) := by
  intro s r hpass
  cases s with
  | nil => cases hpass
  | cons c s =>
    -- Only lists and objects look at the values in them.
    refine ite_eq_ok id (ite_eq_ok id (ite_eq_ok id (ite_eq_ok id (ite_eq_ok id (ite_eq_ok id
      (ite_eq_ok ?_ (ite_eq_ok ?_ id))))))) hpass
    · exact fun hlist => extends_passAll h .list hlist
    · exact fun hobject => extends_passAll (extends_passMember h) .object hobject

end

theorem extends_passValue {n m : Nat} (hnm : n ≤ m) : Extends (passValue n) (passValue m) := by
  induction n generalizing m with
  | zero => nofun
  | succ n ih =>
    obtain ⟨m, rfl⟩ := Nat.exists_eq_add_one_of_ne_zero (Nat.ne_zero_of_lt hnm)
    intro s r hpass
    exact extends_passFrom (ih (Nat.le_of_succ_le_succ hnm)) hpass

theorem passValue_of_pass {s r : List Char} {n : Nat} (h : pass s = .ok r) (hn : s.length < n) :
    passValue n s = .ok r :=
  extends_passValue hn h

/-- Blanks before a value are passed over with it. -/
theorem pass_of_skipBlanks {s r : List Char} (h : pass (skipBlanks s) = .ok r) : pass s = .ok r := by
  have hle := length_skipBlanks_le s
  have hpass := passValue_of_pass h (n := s.length + 1) (by omega)
  rw [passValue, skipBlanks_skipBlanks] at hpass
  exact hpass

end Switchboard.Json
