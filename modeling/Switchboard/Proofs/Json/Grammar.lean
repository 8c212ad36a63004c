import Switchboard.Proofs.Json.Places
/-
  The grammar of JSON, told without a reader: blanks, strings, numerals, and values made of them
  (`ValueText`), and whole texts that hold an object, with its members as they are written
  (`ObjectText`). Every value of the grammar is passed over, to its end and no further
  (`pass_value`). A string is read exactly if every surrogate in it has its other half next to it
  (`Spells`), which passing over does not ask.
-/
namespace Switchboard.Json

open Switchboard.Decimal (spanDigits spanSign)
open Switchboard.Text (hexValue?)

/-! ## Blanks -/

/-- Nothing but blanks. -/
def Blanks (s : List Char) : Prop := ∀ c ∈ s, isBlank c = true

theorem blanks_nil : Blanks [] := fun _ hc => nomatch hc

theorem skipBlanks_blanks {b : List Char} (h : Blanks b) (s : List Char) :
    skipBlanks (b ++ s) = skipBlanks s := by
  induction b with
  | nil => rfl
  | cons c b ih =>
    have hc : isBlank c = true := h c List.mem_cons_self
    rw [List.cons_append, skipBlanks, List.dropWhile_cons, if_pos hc]
    exact ih fun d hd => h d (List.mem_cons_of_mem c hd)

theorem skipBlanks_blanks_cons {b : List Char} (h : Blanks b) {c : Char} (hc : isBlank c = false)
    (s : List Char) : skipBlanks (b ++ c :: s) = c :: s := by
  rw [skipBlanks_blanks h, skipBlanks_cons hc]

theorem skipBlanks_split (s : List Char) : ∃ b, s = b ++ skipBlanks s ∧ Blanks b := by
  have hall : (s.takeWhile isBlank).all isBlank = true := List.all_takeWhile
  exact ⟨s.takeWhile isBlank, List.takeWhile_append_dropWhile.symm, List.all_eq_true.mp hall⟩

theorem blanks_append {b b' : List Char} (h : Blanks b) (h' : Blanks b') : Blanks (b ++ b') :=
  fun c hc => (List.mem_append.mp hc).elim (h c) (h' c)

theorem stops_blanks {b s : List Char} (h : Blanks b) (hs : Stops s) : Stops (b ++ s) := by
  cases b with
  | nil => exact hs
  | cons c b =>
    have hc : isBlank c = true := h c List.mem_cons_self
    simp only [isBlank, Bool.or_eq_true, beq_iff_eq] at hc
    obtain ((rfl | rfl) | rfl) | rfl := hc <;> rfl

/-! ## Strings -/

/-- Four hexadecimal digits and the number that they write. -/
inductive Code : List Char → Nat → Prop
  | digits {a b c d : Char} {i j k l : Nat} (ha : hexValue? a = some i) (hb : hexValue? b = some j)
      (hc : hexValue? c = some k) (hd : hexValue? d = some l) :
      Code [a, b, c, d] (((i * 16 + j) * 16 + k) * 16 + l)

/-- What may stand between the quotes of a string. -/
inductive Letters : List Char → Prop
  | nil : Letters []
  | plain {c : Char} {s : List Char} (quote : c ≠ '"') (backslash : c ≠ '\\')
      (control : ¬c.toNat < 0x20) (rest : Letters s) : Letters (c :: s)
  | letter {l c : Char} {s : List Char} (stands : escapeLetter? l = some c) (rest : Letters s) :
      Letters ('\\' :: l :: s)
  | code {ds s : List Char} {n : Nat} (digits : Code ds n) (rest : Letters s) :
      Letters ('\\' :: 'u' :: (ds ++ s))

/-- What stands between the quotes spells a text: every surrogate is half of a pair. -/
inductive Spells : List Char → List Char → Prop
  | nil : Spells [] []
  | plain {c : Char} {s t : List Char} (quote : c ≠ '"') (backslash : c ≠ '\\')
      (control : ¬c.toNat < 0x20) (rest : Spells s t) : Spells (c :: s) (c :: t)
  | letter {l c : Char} {s t : List Char} (stands : escapeLetter? l = some c)
      (rest : Spells s t) : Spells ('\\' :: l :: s) (c :: t)
  | code {ds s t : List Char} {n : Nat} (digits : Code ds n) (low : isLowSurrogate n = false)
      (high : isHighSurrogate n = false) (rest : Spells s t) :
      Spells ('\\' :: 'u' :: (ds ++ s)) (Char.ofNat n :: t)
  | pair {ds es s t : List Char} {m n : Nat} (first : Code ds m) (second : Code es n)
      (high : isHighSurrogate m = true) (low : isLowSurrogate n = true) (rest : Spells s t) :
      Spells ('\\' :: 'u' :: (ds ++ '\\' :: 'u' :: (es ++ s))) (ofSurrogates m n :: t)

theorem fourDigits_code {ds : List Char} {n : Nat} (h : Code ds n) (s : List Char) :
    fourDigits (ds ++ s) = .ok (n, s) := by
  cases h with
  | digits ha hb hc hd => simp only [List.cons_append, List.nil_append, fourDigits, ha, hb, hc, hd]

theorem code_of_fourDigits {s r : List Char} {n : Nat} (h : fourDigits s = .ok (n, r)) :
    ∃ ds, s = ds ++ r ∧ Code ds n := by
  unfold fourDigits at h
  split at h
  · split at h
    · next ha hb hc hd =>
      cases h
      exact ⟨_, rfl, .digits ha hb hc hd⟩
    · cases h
  · cases h

theorem passEscape_letter {l c : Char} (h : escapeLetter? l = some c) (s : List Char) :
    passEscape (l :: s) = .ok s := by
  have hu : l ≠ 'u' := by
    rintro rfl
    cases h
  unfold passEscape
  split
  · next hnil => cases hnil
  · next hcons => exact absurd (List.cons.inj hcons).1 hu
  · next hcons =>
    obtain ⟨rfl, rfl⟩ := List.cons.inj hcons
    rw [h]

theorem passChars_letters {s : List Char} (h : Letters s) {fuel : Nat} (hfuel : s.length < fuel)
    (r : List Char) : passChars fuel (s ++ '"' :: r) = .ok r := by
  induction h generalizing fuel with
  | nil =>
    obtain ⟨fuel, rfl⟩ := Nat.exists_eq_add_one_of_ne_zero (Nat.ne_zero_of_lt hfuel)
    rfl
  | plain quote backslash control rest ih =>
    obtain ⟨fuel, rfl⟩ := Nat.exists_eq_add_one_of_ne_zero (Nat.ne_zero_of_lt hfuel)
    rw [List.cons_append, passChars, if_neg quote, if_neg backslash, if_neg control]
    exact ih (Nat.lt_of_succ_lt_succ hfuel)
  | letter stands rest ih =>
    obtain ⟨fuel, rfl⟩ := Nat.exists_eq_add_one_of_ne_zero (Nat.ne_zero_of_lt hfuel)
    simp only [List.length_cons] at hfuel
    rw [List.cons_append, List.cons_append, passChars, if_neg (by decide), if_pos rfl,
      passEscape_letter stands]
    exact ih (by omega)
  | code digits rest ih =>
    obtain ⟨fuel, rfl⟩ := Nat.exists_eq_add_one_of_ne_zero (Nat.ne_zero_of_lt hfuel)
    simp only [List.length_cons, List.length_append] at hfuel
    rw [List.cons_append, List.cons_append, List.append_assoc, passChars, if_neg (by decide),
      if_pos rfl, passEscape, fourDigits_code digits]
    exact ih (by omega)

/-- A string is passed over to its closing quote. -/
theorem passString_letters {s : List Char} (h : Letters s) (r : List Char) :
    passString (s ++ '"' :: r) = .ok r := by
  apply passChars_letters h
  rw [List.length_append, List.length_cons]
  omega

/-! ### Strings that are read -/

theorem Spells.letters {s t : List Char} (h : Spells s t) : Letters s := by
  induction h with
  | nil => exact .nil
  | plain quote backslash control rest ih => exact .plain quote backslash control ih
  | letter stands rest ih => exact .letter stands ih
  | code digits low high rest ih => exact .code digits ih
  | pair first second high low rest ih => exact .code first (.code second ih)

/-- A character that may stand between quotes as it is. -/
def isPlain (c : Char) : Bool := c != '"' && c != '\\' && !decide (c.toNat < 0x20)

theorem spells_self {s : List Char} (h : s.all isPlain = true) : Spells s s := by
  induction s with
  | nil => exact .nil
  | cons c s ih =>
    rw [List.all_cons, Bool.and_eq_true] at h
    obtain ⟨hc, hs⟩ := h
    simp only [isPlain, Bool.and_eq_true, bne_iff_ne, Bool.not_eq_true', decide_eq_false_iff_not]
      at hc
    exact .plain hc.1.1 hc.1.2 hc.2 (ih hs)

theorem escape_letter {l c : Char} (h : escapeLetter? l = some c) (s : List Char) :
    escape (l :: s) = .ok (c, s) := by
  have hu : l ≠ 'u' := by
    rintro rfl
    cases h
  unfold escape
  split
  · next hnil => cases hnil
  · next hcons => exact absurd (List.cons.inj hcons).1 hu
  · next hcons =>
    obtain ⟨rfl, rfl⟩ := List.cons.inj hcons
    rw [h]

theorem stringChars_escape {e r t u : List Char} {c : Char} {fuel : Nat}
    (hescape : escape e = .ok (c, r)) (hrest : stringChars fuel r = .ok (t, u)) :
    stringChars (fuel + 1) ('\\' :: e) = .ok (c :: t, u) := by
  rw [stringChars, if_neg (by decide), if_pos rfl, hescape]
  simp only [bind, Except.bind, hrest]

theorem not_low_of_high {n : Nat} (h : isHighSurrogate n = true) : isLowSurrogate n = false := by
  simp only [isHighSurrogate, Bool.and_eq_true, decide_eq_true_eq] at h
  simp only [isLowSurrogate, Bool.and_eq_false_iff, decide_eq_false_iff_not]
  omega

theorem stringChars_spells {s t : List Char} (h : Spells s t) {fuel : Nat}
    (hfuel : s.length < fuel) (r : List Char) :
    stringChars fuel (s ++ '"' :: r) = .ok (t, r) := by
  induction h generalizing fuel with
  | nil =>
    obtain ⟨fuel, rfl⟩ := Nat.exists_eq_add_one_of_ne_zero (Nat.ne_zero_of_lt hfuel)
    rfl
  | plain quote backslash control rest ih =>
    obtain ⟨fuel, rfl⟩ := Nat.exists_eq_add_one_of_ne_zero (Nat.ne_zero_of_lt hfuel)
    rw [List.cons_append, stringChars, if_neg quote, if_neg backslash, if_neg control,
      ih (Nat.lt_of_succ_lt_succ hfuel)]
    rfl
  | letter stands rest ih =>
    obtain ⟨fuel, rfl⟩ := Nat.exists_eq_add_one_of_ne_zero (Nat.ne_zero_of_lt hfuel)
    simp only [List.length_cons] at hfuel
    exact stringChars_escape (escape_letter stands _) (ih (by omega))
  | code digits low high rest ih =>
    obtain ⟨fuel, rfl⟩ := Nat.exists_eq_add_one_of_ne_zero (Nat.ne_zero_of_lt hfuel)
    simp only [List.length_cons, List.length_append] at hfuel
    refine stringChars_escape ?_ (ih (by omega))
    simp [escape, List.append_assoc, fourDigits_code digits, bind, Except.bind, low, high]
  | pair first second high low rest ih =>
    obtain ⟨fuel, rfl⟩ := Nat.exists_eq_add_one_of_ne_zero (Nat.ne_zero_of_lt hfuel)
    simp only [List.length_cons, List.length_append] at hfuel
    refine stringChars_escape ?_ (ih (by omega))
    simp [escape, surrogateTail, List.append_assoc, fourDigits_code first, fourDigits_code second,
      bind, Except.bind, not_low_of_high high, high, low]

/-- What spells a text is read as the text, whatever follows the closing quote. -/
theorem stringTail_spells {s : List Char} {t : String} (h : Spells s t.toList) (r : List Char) :
    stringTail (s ++ '"' :: r) = .ok (t, r) := by
  have hlength : s.length < (s ++ '"' :: r).length := by
    rw [List.length_append, List.length_cons]
    omega
  have hread := stringChars_spells h hlength r
  simp only [stringTail, hread, bind, Except.bind, String.ofList_toList]

theorem surrogateTail_eq_ok {high : Nat} {s r : List Char} {c : Char}
    (h : surrogateTail high s = .ok (c, r)) :
    ∃ es low, s = '\\' :: 'u' :: (es ++ r) ∧ Code es low ∧ isLowSurrogate low = true ∧
      c = ofSurrogates high low := by
  unfold surrogateTail at h
  split at h
  · cases h
  · cases h
  · obtain ⟨⟨low, u⟩, hdigits, h⟩ := bind_eq_ok.mp h
    obtain ⟨es, hs, hcode⟩ := code_of_fourDigits hdigits
    dsimp only at h
    split at h
    · next hlow =>
      obtain ⟨hc, rfl⟩ := Prod.mk.inj (Except.ok.inj h)
      exact ⟨es, low, by rw [hs], hcode, hlow, hc.symm⟩
    · cases h
  · cases h
  · cases h

/-- An escape that is read goes on spelling. -/
theorem spells_of_escape {s r : List Char} {c : Char} (h : escape s = .ok (c, r)) :
    ∃ e, s = e ++ r ∧ ∀ p t, Spells p t → Spells ('\\' :: (e ++ p)) (c :: t) := by
  unfold escape at h
  split at h
  · cases h
  · obtain ⟨⟨n, u⟩, hdigits, h⟩ := bind_eq_ok.mp h
    obtain ⟨ds, hs, hcode⟩ := code_of_fourDigits hdigits
    rw [hs]
    dsimp only at h
    split at h
    · cases h
    · next hlow =>
      split at h
      · next hhigh =>
        obtain ⟨es, low, hu, hcode', hislow, hc⟩ := surrogateTail_eq_ok h
        refine ⟨'u' :: (ds ++ '\\' :: 'u' :: es), by simp [hu], fun p t hp => ?_⟩
        rw [hc]
        simpa using Spells.pair hcode hcode' hhigh hislow hp
      · next hhigh =>
        cases h
        refine ⟨'u' :: ds, rfl, fun p t hp => ?_⟩
        exact .code hcode (eq_false_of_ne_true hlow) (eq_false_of_ne_true hhigh) hp
  · next l s hu =>
    split at h
    · next hstands =>
      cases h
      exact ⟨[l], rfl, fun p t hp => .letter hstands hp⟩
    · cases h

theorem spells_of_stringChars {fuel : Nat} {s r t : List Char}
    (h : stringChars fuel s = .ok (t, r)) : ∃ p, s = p ++ '"' :: r ∧ Spells p t := by
  induction fuel generalizing s t with
  | zero => cases h
  | succ fuel ih =>
    cases s with
    | nil => cases h
    | cons c s =>
      rw [stringChars] at h
      split at h
      · next hquote =>
        cases h
        exact ⟨[], by rw [hquote]; rfl, .nil⟩
      · next hquote =>
        split at h
        · next hback =>
          obtain ⟨⟨e, u⟩, hescape, h⟩ := bind_eq_ok.mp h
          obtain ⟨⟨t, v⟩, hrest, h⟩ := bind_eq_ok.mp h
          cases h
          obtain ⟨es, rfl, hes⟩ := spells_of_escape hescape
          obtain ⟨p, rfl, hp⟩ := ih hrest
          refine ⟨'\\' :: (es ++ p), ?_, hes p _ hp⟩
          rw [hback, List.cons_append, List.append_assoc]
        · next hback =>
          split at h
          · cases h
          · next hcontrol =>
            obtain ⟨⟨t, v⟩, hrest, h⟩ := bind_eq_ok.mp h
            cases h
            obtain ⟨p, rfl, hp⟩ := ih hrest
            exact ⟨c :: p, rfl, .plain hquote hback hcontrol hp⟩

/-- What is read up to a closing quote spells the text. -/
theorem spells_of_stringTail {s r : List Char} {t : String} (h : stringTail s = .ok (t, r)) :
    ∃ p, s = p ++ '"' :: r ∧ Spells p t.toList := by
  obtain ⟨⟨cs, u⟩, hchars, h⟩ := bind_eq_ok.mp h
  cases h
  rw [String.toList_ofList]
  exact spells_of_stringChars hchars

theorem stringTail_letters_eq_ok {n : List Char} (h : Letters n) {r r' : List Char} {t : String}
    (hread : stringTail (n ++ '"' :: r) = .ok (t, r')) : r' = r ∧ Spells n t.toList := by
  have hrest : r' = r :=
    Except.ok.inj ((passString_of_stringTail hread).symm.trans (passString_letters h r))
  obtain ⟨p, hp, hspells⟩ := spells_of_stringTail hread
  rw [hrest] at hp
  exact ⟨hrest, List.append_cancel_right hp ▸ hspells⟩

/-! ## Numerals -/

/-- At least one digit, and nothing else. -/
def Digits (ds : List Char) : Prop := ds ≠ [] ∧ ∀ d ∈ ds, d.isDigit = true

/-- The digits before the point: a zero stands alone. -/
structure Leading (ds : List Char) : Prop where
  digits : Digits ds
  zero : ds.head? = some '0' → ds = ['0']

/-- A point and digits, or nothing. -/
inductive Fraction : List Char → Prop
  | absent : Fraction []
  | digits {ds : List Char} (h : Digits ds) : Fraction ('.' :: ds)

/-- The mark of an exponent, perhaps a sign, and digits; or nothing. -/
inductive Exponent : List Char → Prop
  | absent : Exponent []
  | digits {mark : Char} {sign ds : List Char} (marked : mark = 'e' ∨ mark = 'E')
      (signed : sign = [] ∨ sign = ['+'] ∨ sign = ['-']) (h : Digits ds) :
      Exponent (mark :: (sign ++ ds))

/-- The text of a number. -/
inductive Numeral : List Char → Prop
  | parts {sign leading fraction exponent : List Char} (signed : sign = [] ∨ sign = ['-'])
      (hl : Leading leading) (hf : Fraction fraction) (he : Exponent exponent) :
      Numeral (sign ++ (leading ++ (fraction ++ exponent)))

theorem spanDigits_before {ds s : List Char} (h : ∀ d ∈ ds, d.isDigit = true)
    (hs : ∀ c ∈ s.head?, c.isDigit = false) : spanDigits (ds ++ s) = (ds, s) :=
  Decimal.spanDigits_digits h hs

theorem passExponent?_exponent {e : List Char} (h : Exponent e) {r : List Char} (hr : Stops r) :
    passExponent? (e ++ r) = .ok r := by
  cases h with
  | absent => exact passExponent?_of_stops hr
  | @digits mark sign ds marked signed h =>
    obtain ⟨hne, hds⟩ := h
    obtain ⟨d, ds, rfl⟩ := List.exists_cons_of_ne_nil hne
    have hd : d.isDigit = true := hds d List.mem_cons_self
    have hsign : spanSign (sign ++ (d :: ds ++ r)) =
        (decide (sign = ['-']), d :: ds ++ r) := by
      rcases signed with rfl | rfl | rfl
      · exact spanSign_of_digit hd _
      · rfl
      · rfl
    have hspan : spanDigits (ds ++ r) = (ds, r) :=
      spanDigits_before (fun c hc => hds c (List.mem_cons_of_mem d hc)) hr.not_digit
    rw [List.cons_append, List.append_assoc, passExponent?, if_pos marked, passExponent, hsign]
    dsimp only [List.cons_append]
    rw [if_pos hd, hspan]

theorem head_exponent {e : List Char} (h : Exponent e) {r : List Char} (hr : Stops r) :
    ∀ c ∈ (e ++ r).head?, c ≠ '.' ∧ c.isDigit = false := by
  cases h with
  | absent =>
    intro c hc
    refine ⟨?_, hr.not_digit c hc⟩
    rintro rfl
    obtain ⟨t, rfl⟩ := List.head?_eq_some_iff.mp hc
    cases hr
  | digits marked signed h =>
    intro c hc
    cases hc
    rcases marked with rfl | rfl <;> decide

theorem passFraction?_fraction {f e : List Char} (hf : Fraction f) (he : Exponent e)
    {r : List Char} (hr : Stops r) : passFraction? (f ++ (e ++ r)) = .ok r := by
  have hhead := head_exponent he hr
  cases hf with
  | absent =>
    rw [List.nil_append, passFraction?_of_ne fun c hc => (hhead c hc).1]
    exact passExponent?_exponent he hr
  | @digits ds h =>
    obtain ⟨hne, hds⟩ := h
    obtain ⟨d, ds, rfl⟩ := List.exists_cons_of_ne_nil hne
    rw [List.cons_append, passFraction?, spanDigits_before hds fun c hc => (hhead c hc).2]
    exact passExponent?_exponent he hr

theorem head_fraction {f e : List Char} (hf : Fraction f) (he : Exponent e) {r : List Char}
    (hr : Stops r) : ∀ c ∈ (f ++ (e ++ r)).head?, c.isDigit = false := by
  cases hf with
  | absent => exact fun c hc => (head_exponent he hr c hc).2
  | digits h =>
    intro c hc
    cases hc
    decide

theorem passNumber_numeral {l f e : List Char} (hl : Leading l) (hf : Fraction f)
    (he : Exponent e) {r : List Char} (hr : Stops r) :
    passNumber (l ++ (f ++ (e ++ r))) = .ok r := by
  obtain ⟨⟨hne, hds⟩, hzero⟩ := hl
  obtain ⟨d, ds, rfl⟩ := List.exists_cons_of_ne_nil hne
  have hhead := head_fraction hf he hr
  by_cases hd : d = '0'
  · subst hd
    obtain ⟨-, rfl⟩ := List.cons.inj (hzero rfl)
    rw [List.cons_append, List.nil_append,
      passNumber_zero fun c hc => Bool.eq_false_iff.mp (hhead c hc)]
    exact passFraction?_fraction hf he hr
  · have hspan : spanDigits (ds ++ (f ++ (e ++ r))) = (ds, f ++ (e ++ r)) :=
      spanDigits_before (fun c hc => hds c (List.mem_cons_of_mem d hc)) hhead
    rw [List.cons_append, passNumber_digit (hds d List.mem_cons_self) hd, hspan]
    exact passFraction?_fraction hf he hr

/-! ## Values -/

/-- A piece of text with what stands around it. -/
structure Padded where
  before : List Char
  text : List Char
  after : List Char

namespace Padded

/-- The piece and what stands around it. -/
def all (p : Padded) : List Char := p.before ++ (p.text ++ p.after)

/-- Only blanks stand around the piece. -/
structure Spaced (p : Padded) : Prop where
  before : Blanks p.before
  after : Blanks p.after

end Padded

/-- A member of an object as it is written; the name is what stands between the quotes. -/
structure MemberText where
  name : Padded
  value : Padded

namespace MemberText

/-- The member up to the end of its value. -/
def front (m : MemberText) : List Char :=
  m.name.before ++ '"' :: (m.name.text ++ '"' :: (m.name.after ++ ':' ::
    (m.value.before ++ m.value.text)))

/-- The text of the member. -/
def all (m : MemberText) : List Char := m.front ++ m.value.after

/-- What is said of a member whatever its value. -/
structure Framed (m : MemberText) : Prop where
  name : m.name.Spaced
  letters : Letters m.name.text
  value : m.value.Spaced

/-- What follows the opening quote of the member, with a rest. -/
def fromName (m : MemberText) (r : List Char) : List Char :=
  m.name.text ++ '"' :: (m.name.after ++ ':' ::
    (m.value.before ++ (m.value.text ++ (m.value.after ++ r))))

theorem all_append (m : MemberText) (r : List Char) :
    m.all ++ r = m.name.before ++ '"' :: m.fromName r := by
  simp [all, front, fromName]

theorem all_ne_nil (m : MemberText) : m.all ≠ [] := by
  rw [← List.append_nil m.all, all_append]
  exact List.append_ne_nil_of_right_ne_nil _ (List.cons_ne_nil _ _)

/-- The name and the value. -/
def pair (m : MemberText) : List Char × List Char := (m.name.text, m.value.text)

/-- A member without blanks. -/
def tight (name value : String) : MemberText := ⟨⟨[], name.toList, []⟩, ⟨[], value.toList, []⟩⟩

end MemberText

theorem framed_tight {name : String} (value : String) (h : name.toList.all isPlain = true) :
    (MemberText.tight name value).Framed :=
  ⟨⟨blanks_nil, blanks_nil⟩, (spells_self h).letters, ⟨blanks_nil, blanks_nil⟩⟩

/-- What stands between brackets: the pieces with commas between them, or blanks if there is
    none. -/
def Between (pieces : List (List Char)) (s : List Char) : Prop :=
  s = joined pieces ∨ pieces = [] ∧ Blanks s

/-- The values of JSON, without blanks around them. -/
inductive ValueText : List Char → Prop
  | null : ValueText ['n', 'u', 'l', 'l']
  | yes : ValueText ['t', 'r', 'u', 'e']
  | no : ValueText ['f', 'a', 'l', 's', 'e']
  | numeral {s : List Char} (h : Numeral s) : ValueText s
  | string {s : List Char} (h : Letters s) : ValueText ('"' :: (s ++ ['"']))
  | list {items : List Padded} {s : List Char} (between : Between (items.map (·.all)) s)
      (spaced : ∀ p ∈ items, p.Spaced) (values : ∀ p ∈ items, ValueText p.text) :
      ValueText ('[' :: (s ++ [']']))
  | object {ms : List MemberText} {s : List Char} (between : Between (ms.map (·.all)) s)
      (framed : ∀ m ∈ ms, m.Framed) (values : ∀ m ∈ ms, ValueText m.value.text) :
      ValueText ('\x7b' :: (s ++ ['\x7d']))

theorem ValueText.plain {s : List Char} (h : s.all isPlain = true) :
    ValueText ('"' :: (s ++ ['"'])) :=
  .string (spells_self h).letters

/-- A text that holds an object with the members, each a name, as it stands between the quotes, and
    a value. -/
inductive ObjectText : List Char → List (List Char × List Char) → Prop
  | intro {ms : List MemberText} {before s after : List Char} (hbefore : Blanks before)
      (hafter : Blanks after) (between : Between (ms.map (·.all)) s)
      (framed : ∀ m ∈ ms, m.Framed) (values : ∀ m ∈ ms, ValueText m.value.text) :
      ObjectText (before ++ '\x7b' :: (s ++ '\x7d' :: after)) (ms.map (·.pair))

/-- A text that holds a list with the items. -/
inductive ListText : List Char → List (List Char) → Prop
  | intro {items : List Padded} {before s after : List Char} (hbefore : Blanks before)
      (hafter : Blanks after) (between : Between (items.map (·.all)) s)
      (spaced : ∀ p ∈ items, p.Spaced) (values : ∀ p ∈ items, ValueText p.text) :
      ListText (before ++ '[' :: (s ++ ']' :: after)) (items.map (·.text))

theorem ObjectText.name {s : List Char} {ms : List (List Char × List Char)} (h : ObjectText s ms)
    {m : List Char × List Char} (hm : m ∈ ms) : Letters m.1 := by
  cases h with
  | intro _ _ _ framed _ =>
    obtain ⟨p, hp, rfl⟩ := List.mem_map.mp hm
    exact (framed p hp).letters

theorem ObjectText.value {s : List Char} {ms : List (List Char × List Char)} (h : ObjectText s ms)
    {m : List Char × List Char} (hm : m ∈ ms) : ValueText m.2 := by
  cases h with
  | intro _ _ _ _ values =>
    obtain ⟨p, hp, rfl⟩ := List.mem_map.mp hm
    exact values p hp

/-- A text that holds an object opens with a brace. -/
theorem ObjectText.opens {s : List Char} {ms : List (List Char × List Char)} (h : ObjectText s ms)
    (r : List Char) : ∃ u, skipBlanks (s ++ r) = '\x7b' :: u := by
  cases h with
  | intro hbefore =>
    rw [List.append_assoc, List.cons_append]
    exact ⟨_, skipBlanks_blanks_cons hbefore rfl _⟩

/-- A text that holds a list opens with a bracket. -/
theorem ListText.opens {s : List Char} {vs : List (List Char)} (h : ListText s vs)
    (r : List Char) : ∃ u, skipBlanks (s ++ r) = '[' :: u := by
  cases h with
  | intro hbefore =>
    rw [List.append_assoc, List.cons_append]
    exact ⟨_, skipBlanks_blanks_cons hbefore rfl _⟩

theorem ListText.value {s : List Char} {vs : List (List Char)} (h : ListText s vs) {v : List Char}
    (hv : v ∈ vs) : ValueText v := by
  cases h with
  | intro _ _ _ _ values =>
    obtain ⟨p, hp, rfl⟩ := List.mem_map.mp hv
    exact values p hp

/-! ### Values start and end -/

theorem opens_numeral {s : List Char} (h : Numeral s) :
    ∃ c r, s = c :: r ∧ (c = '-' ∨ c.isDigit = true) := by
  cases h with
  | parts signed hl hf he =>
    obtain ⟨⟨hne, hds⟩, -⟩ := hl
    obtain ⟨d, ds, rfl⟩ := List.exists_cons_of_ne_nil hne
    rcases signed with rfl | rfl
    · exact ⟨d, _, rfl, .inr (hds d List.mem_cons_self)⟩
    · exact ⟨'-', _, rfl, .inl rfl⟩

theorem not_numeral_cons {c : Char} {s : List Char} (hminus : c ≠ '-')
    (hdigit : c.isDigit = false) : ¬Numeral (c :: s) := by
  intro h
  obtain ⟨d, r, heq, hd⟩ := opens_numeral h
  obtain ⟨rfl, -⟩ := List.cons.inj heq
  rcases hd with hd | hd
  · exact hminus hd
  · cases hdigit.symm.trans hd

theorem isBlank_of_isDigit {c : Char} (h : c.isDigit = true) : isBlank c = false := by
  apply Bool.eq_false_iff.mpr
  intro hblank
  simp only [isBlank, Bool.or_eq_true, beq_iff_eq] at hblank
  obtain ((rfl | rfl) | rfl) | rfl := hblank <;> cases h

/-- A value starts with a character that is neither a blank nor a closing bracket. -/
theorem ValueText.opens {v : List Char} (h : ValueText v) {x : Char} (hx : x = ']' ∨ x = '\x7d') :
    Opens x v := by
  have hplain : ∀ c r, isBlank c = false → c ≠ ']' → c ≠ '\x7d' → Opens x (c :: r) := by
    intro c r hc hlist hobject
    refine ⟨c, r, rfl, hc, ?_⟩
    rcases hx with rfl | rfl
    · exact hlist
    · exact hobject
  cases h with
  | numeral h =>
    obtain ⟨c, r, rfl, rfl | hc⟩ := opens_numeral h
    · exact hplain _ _ rfl (by decide) (by decide)
    · refine hplain c r (isBlank_of_isDigit hc) ?_ ?_ <;> rintro rfl <;> cases hc
  | _ => exact hplain _ _ rfl (by decide) (by decide)

theorem skipBlanks_value {v : List Char} (h : ValueText v) (s : List Char) :
    skipBlanks (v ++ s) = v ++ s := (h.opens (.inl rfl)).skipBlanks s

theorem skipBlanks_value_alone {v : List Char} (h : ValueText v) : skipBlanks v = v := by
  have hskip := skipBlanks_value h []
  rwa [List.append_nil] at hskip

/-! ## Passing over values -/

section

variable {close : Closing} {item : List Char → Except Fault (List Char)}

/-- What follows a piece between brackets stops it. -/
theorem stops_after {after : List Char} (h : Blanks after) (hclose : inNumber close.bracket = false)
    (ps : List (List Char)) (r : List Char) :
    Stops (after ++ (ps.flatMap (',' :: ·) ++ close.bracket :: r)) :=
  stops_blanks h (stops_rest close.bracket hclose ps r)

/-- The pieces that follow a comma are passed over, each up to the blanks after it. -/
theorem passItems_pieces (hblank : isBlank close.bracket = false) (hcomma : ',' ≠ close.bracket)
    (hclose : inNumber close.bracket = false) {ps : List (List Char × List Char)}
    (hps : ∀ p ∈ ps, Blanks p.2 ∧ ∀ r, Stops r → item (p.1 ++ r) = .ok r)
    {fuel : Nat} (hfuel : ps.length < fuel) {after : List Char} (hafter : Blanks after)
    (r : List Char) :
    passItems close item fuel
      (after ++ ((ps.map fun p => p.1 ++ p.2).flatMap (',' :: ·) ++ close.bracket :: r)) =
      .ok r := by
  induction ps generalizing fuel after with
  | nil =>
    obtain ⟨fuel, rfl⟩ := Nat.exists_eq_add_one_of_ne_zero (Nat.ne_zero_of_lt hfuel)
    rw [passItems, List.map_nil, List.flatMap_nil, List.nil_append,
      skipBlanks_blanks_cons hafter hblank]
    exact if_pos rfl
  | cons p ps ih =>
    obtain ⟨fuel, rfl⟩ := Nat.exists_eq_add_one_of_ne_zero (Nat.ne_zero_of_lt hfuel)
    obtain ⟨hblanks, hpass⟩ := hps p List.mem_cons_self
    have hrest := ih (fun q hq => hps q (List.mem_cons_of_mem p hq)) (Nat.lt_of_succ_lt_succ hfuel)
      hblanks
    rw [passItems, List.map_cons, List.flatMap_cons, List.append_assoc, List.cons_append,
      skipBlanks_blanks_cons hafter rfl]
    dsimp only
    rw [if_neg hcomma, if_pos rfl, List.append_assoc, hpass _ (stops_after hblanks hclose _ r)]
    exact hrest

/-- Between two pieces there is a comma at least. -/
theorem length_le_joined_succ (ps : List (List Char)) : ps.length ≤ (joined ps).length + 1 := by
  cases ps with
  | nil => exact Nat.zero_le _
  | cons p ps =>
    have := length_le_flatMap_comma ps
    rw [joined_cons, List.length_append, List.length_cons]
    omega

/-- What stands between brackets is passed over if each piece is. -/
theorem passAll_pieces (hblank : isBlank close.bracket = false) (hcomma : ',' ≠ close.bracket)
    (hclose : inNumber close.bracket = false) (hskip : ∀ s, item (skipBlanks s) = item s)
    {ps : List (List Char × List Char)}
    (hps : ∀ p ∈ ps, Blanks p.2 ∧ ∀ r, Stops r → item (p.1 ++ r) = .ok r)
    (hopens : ∀ p ∈ ps, ∀ s, ∃ c r, skipBlanks (p.1 ++ s) = c :: r ∧ c ≠ close.bracket)
    {s : List Char} (between : Between (ps.map fun p => p.1 ++ p.2) s) (r : List Char) :
    passAll close item (s ++ close.bracket :: r) = .ok r := by
  have hempty : ∀ b, Blanks b → passAll close item (b ++ close.bracket :: r) = .ok r := by
    intro b hb
    rw [passAll, skipBlanks_blanks_cons hb hblank]
    exact if_pos rfl
  rcases between with rfl | ⟨-, hb⟩
  · cases ps with
    | nil => exact hempty [] blanks_nil
    | cons p ps =>
      obtain ⟨hblanks, hpass⟩ := hps p List.mem_cons_self
      let rest := p.2 ++ ((ps.map fun p => p.1 ++ p.2).flatMap (',' :: ·) ++ close.bracket :: r)
      have htext : joined ((p :: ps).map fun p => p.1 ++ p.2) ++ close.bracket :: r =
          p.1 ++ rest := by
        rw [List.map_cons, joined_cons, List.append_assoc, List.append_assoc]
      obtain ⟨c, t, hstart, hne⟩ := hopens p List.mem_cons_self rest
      have hitem : item (c :: t) = .ok rest := by
        rw [← hstart, hskip]
        exact hpass rest (stops_after hblanks hclose _ r)
      have hlength : ps.length < (joined ((p :: ps).map fun p => p.1 ++ p.2) ++
          close.bracket :: r).length := by
        have hcount := length_le_joined_succ ((p :: ps).map fun p => p.1 ++ p.2)
        rw [List.length_map, List.length_cons] at hcount
        rw [List.length_append, List.length_cons]
        omega
      rw [passAll, htext, hstart]
      dsimp only
      rw [if_neg hne, hitem, ← htext]
      exact passItems_pieces hblank hcomma hclose
        (fun q hq => hps q (List.mem_cons_of_mem p hq)) hlength hblanks r
  · exact hempty s hb

end

/-- A member is passed over if its value is. -/
theorem passMember_front {m : MemberText} (h : m.Framed)
    {value : List Char → Except Fault (List Char)}
    (hvalue : ∀ r, Stops r → value (m.value.before ++ (m.value.text ++ r)) = .ok r) {r : List Char}
    (hr : Stops r) : passMember value (m.front ++ r) = .ok r := by
  unfold MemberText.front
  simp only [List.append_assoc, List.cons_append]
  rw [passMember, skipBlanks_blanks_cons h.name.before rfl]
  dsimp only
  rw [if_pos rfl, passString_letters h.letters]
  simp only [bind, Except.bind,
    skipBlanks_blanks_cons h.name.after (show isBlank ':' = false from rfl)]
  exact hvalue r hr

theorem passValue_skipBlanks (fuel : Nat) (s : List Char) :
    passValue fuel (skipBlanks s) = passValue fuel s := by
  cases fuel with
  | zero => rfl
  | succ fuel => rw [passValue, passValue, skipBlanks_skipBlanks]

theorem passFrom_numeral {s r : List Char} (h : Numeral s) (hr : Stops r)
    (inner : List Char → Except Fault (List Char)) : passFrom inner (s ++ r) = .ok r := by
  cases h with
  | @parts sign l f e signed hl hf he =>
    have hpass : passNumber (l ++ (f ++ (e ++ r))) = .ok r := passNumber_numeral hl hf he hr
    simp only [List.append_assoc]
    rcases signed with rfl | rfl
    · obtain ⟨⟨hne, hds⟩, -⟩ := hl
      obtain ⟨d, ds, rfl⟩ := List.exists_cons_of_ne_nil hne
      have hd : d.isDigit = true := hds d List.mem_cons_self
      have hnot : ∀ x : Char, x.isDigit = false → d ≠ x := by
        rintro x hx rfl
        cases hd.symm.trans hx
      rw [List.nil_append, List.cons_append, passFrom, if_neg (hnot 'n' rfl), if_neg (hnot 't' rfl),
        if_neg (hnot 'f' rfl), if_neg (hnot '-' rfl), if_pos hd]
      exact hpass
    · exact hpass

/-- The blanks before a value are passed over with it. -/
theorem passes_blanks {fuel n : Nat} {b v : List Char} (hb : Blanks b)
    (h : Passes (passValue fuel) n v) (hn : v.length ≤ n) {r : List Char} (hr : Stops r) :
    passValue fuel (b ++ (v ++ r)) = .ok r := by
  rw [← passValue_skipBlanks, skipBlanks_blanks hb, passValue_skipBlanks]
  exact h hn r hr

theorem length_le_of_mem_joined {p : List Char} {ps : List (List Char)} (h : p ∈ ps) :
    p.length ≤ (joined ps).length := by
  induction ps with
  | nil => cases h
  | cons q ps ih =>
    rw [joined_cons, List.length_append]
    rcases List.mem_cons.mp h with rfl | h
    · exact Nat.le_add_right _ _
    · have hle := (List.sublist_flatten_of_mem (List.mem_map_of_mem (f := (',' :: ·)) h)).length_le
      rw [← List.flatMap_def, List.length_cons] at hle
      omega

theorem length_le_of_between {p : List Char} {ps : List (List Char)} {s : List Char}
    (between : Between ps s) (h : p ∈ ps) : p.length ≤ s.length := by
  rcases between with rfl | ⟨rfl, -⟩
  · exact length_le_of_mem_joined h
  · cases h

/-- A list is passed over if its items are. -/
theorem passAll_list {fuel : Nat} {items : List Padded} {s : List Char}
    (between : Between (items.map (·.all)) s) (spaced : ∀ p ∈ items, p.Spaced)
    (values : ∀ p ∈ items, ValueText p.text)
    (hpass : ∀ p ∈ items, Passes (passValue fuel) fuel p.text) (hfuel : s.length ≤ fuel)
    (r : List Char) : passAll .list (passValue fuel) (s ++ ']' :: r) = .ok r := by
  have hmap : items.map (·.all) =
      (items.map fun p => (p.before ++ p.text, p.after)).map fun q => q.1 ++ q.2 := by
    rw [List.map_map]
    exact List.map_congr_left fun p _ => (List.append_assoc _ _ _).symm
  have hlength : ∀ p ∈ items, p.text.length ≤ fuel := by
    intro p hp
    have hle := length_le_of_between between (List.mem_map_of_mem hp)
    simp only [Padded.all, List.length_append] at hle
    omega
  rw [hmap] at between
  refine passAll_pieces rfl (by decide) rfl (passValue_skipBlanks fuel) ?_ ?_ between r
  · intro q hq
    obtain ⟨p, hp, rfl⟩ := List.mem_map.mp hq
    refine ⟨(spaced p hp).after, fun r hr => ?_⟩
    rw [List.append_assoc]
    exact passes_blanks (spaced p hp).before (hpass p hp) (hlength p hp) hr
  · intro q hq t
    obtain ⟨p, hp, rfl⟩ := List.mem_map.mp hq
    obtain ⟨c, u, htext, hc, hne⟩ := (values p hp).opens (.inl rfl)
    refine ⟨c, u ++ t, ?_, hne⟩
    dsimp only
    rw [List.append_assoc, htext, List.cons_append, skipBlanks_blanks_cons (spaced p hp).before hc]

/-- An object is passed over if the values of its members are. -/
theorem passAll_object {fuel : Nat} {ms : List MemberText} {s : List Char}
    (between : Between (ms.map (·.all)) s) (framed : ∀ m ∈ ms, m.Framed)
    (hpass : ∀ m ∈ ms, Passes (passValue fuel) fuel m.value.text) (hfuel : s.length ≤ fuel)
    (r : List Char) :
    passAll .object (passMember (passValue fuel)) (s ++ '\x7d' :: r) = .ok r := by
  have hmap : ms.map (·.all) =
      (ms.map fun m => (m.front, m.value.after)).map fun q => q.1 ++ q.2 := by
    rw [List.map_map]
    rfl
  have hlength : ∀ m ∈ ms, m.value.text.length ≤ fuel := by
    intro m hm
    have hle := length_le_of_between between (List.mem_map_of_mem hm)
    simp only [MemberText.all, MemberText.front, List.length_append, List.length_cons] at hle
    omega
  rw [hmap] at between
  refine passAll_pieces rfl (by decide) rfl (passMember_skipBlanks _) ?_ ?_ between r
  · intro q hq
    obtain ⟨m, hm, rfl⟩ := List.mem_map.mp hq
    refine ⟨(framed m hm).value.after, fun r hr => ?_⟩
    exact passMember_front (framed m hm)
      (fun r hr => passes_blanks (framed m hm).value.before (hpass m hm) (hlength m hm) hr) hr
  · intro q hq t
    obtain ⟨m, hm, rfl⟩ := List.mem_map.mp hq
    refine ⟨'"', m.name.text ++ '"' :: (m.name.after ++ ':' ::
      (m.value.before ++ m.value.text)) ++ t, ?_, by decide⟩
    dsimp only [MemberText.front]
    rw [List.append_assoc, List.cons_append, skipBlanks_blanks_cons (framed m hm).name.before rfl]

/-- A value is passed over wherever it stands, if the fuel is enough for its length. -/
theorem passes_value {v : List Char} (h : ValueText v) (fuel : Nat) :
    Passes (passValue fuel) fuel v := by
  induction h generalizing fuel with
  | null | yes | no =>
    intro hle r _
    obtain ⟨fuel, rfl⟩ := Nat.exists_eq_add_one_of_ne_zero (n := fuel) (by rintro rfl; cases hle)
    exact word_append _ r
  | numeral h =>
    intro hle r hr
    have hstart := skipBlanks_value (.numeral h) r
    obtain ⟨c, t, rfl, -⟩ := opens_numeral h
    obtain ⟨fuel, rfl⟩ := Nat.exists_eq_add_one_of_ne_zero (Nat.ne_zero_of_lt hle)
    rw [passValue, hstart]
    exact passFrom_numeral h hr _
  | string h =>
    intro hle r _
    obtain ⟨fuel, rfl⟩ := Nat.exists_eq_add_one_of_ne_zero (Nat.ne_zero_of_lt hle)
    simp only [List.cons_append, List.append_assoc, List.nil_append]
    exact passString_letters h r
  | @list items s between spaced values ih =>
    intro hle r _
    obtain ⟨fuel, rfl⟩ := Nat.exists_eq_add_one_of_ne_zero (Nat.ne_zero_of_lt hle)
    simp only [List.length_cons, List.length_append] at hle
    simp only [List.cons_append, List.append_assoc, List.nil_append]
    exact passAll_list between spaced values (fun p hp => ih p hp fuel) (by omega) r
  | @object ms s between framed values ih =>
    intro hle r _
    obtain ⟨fuel, rfl⟩ := Nat.exists_eq_add_one_of_ne_zero (Nat.ne_zero_of_lt hle)
    simp only [List.length_cons, List.length_append] at hle
    simp only [List.cons_append, List.append_assoc, List.nil_append]
    exact passAll_object between framed (fun m hm => ih m hm fuel) (by omega) r

/-- Every value of the grammar is passed over, to its end and no further. -/
theorem pass_value {v : List Char} (h : ValueText v) {r : List Char} (hr : Stops r) :
    pass (v ++ r) = .ok r := by
  apply passes_value h _ _ r hr
  rw [List.length_append]
  omega

end Switchboard.Json
