import Mathlib.Data.List.Forall2
import Switchboard.Proofs.Json.Grammar
/-
  The scanner accepts no more than the grammar. What it passes over is a value of the grammar with
  blanks before it (`valueText_of_pass`), built up along the scanner: strings, numbers, and what
  stands between brackets, piece by piece (`between_of_passAll`). An object that is read member by
  member has the members of its text, in the same order (`ObjectText.matches`), and a list that is
  read item by item has its items (`ListText.firstIn`).
-/
namespace Switchboard.Json

open Switchboard.Decimal (spanDigits spanSign)

/-! ## Strings -/

theorem letters_of_passChars {fuel : Nat} {s r : List Char} (h : passChars fuel s = .ok r) :
    ∃ n, s = n ++ '"' :: r ∧ Letters n := by
  induction fuel generalizing s with
  | zero => cases h
  | succ fuel ih =>
    cases s with
    | nil => cases h
    | cons c s =>
      rw [passChars] at h
      split at h
      · next hquote =>
        cases h
        exact ⟨[], by rw [hquote, List.nil_append], .nil⟩
      · next hquote =>
        split at h
        · next hback =>
          subst hback
          obtain ⟨u, hescape, h⟩ := bind_eq_ok.mp h
          obtain ⟨n, rfl, hn⟩ := ih h
          unfold passEscape at hescape
          split at hescape
          · cases hescape
          · obtain ⟨⟨m, v⟩, hdigits, hv⟩ := bind_eq_ok.mp hescape
            cases hv
            obtain ⟨ds, rfl, hds⟩ := code_of_fourDigits hdigits
            exact ⟨'\\' :: 'u' :: (ds ++ n), by simp, .code hds hn⟩
          · next l v hl =>
            split at hescape
            · next c hc =>
              cases hescape
              exact ⟨'\\' :: l :: n, rfl, .letter hc hn⟩
            · cases hescape
        · next hback =>
          split at h
          · cases h
          · next hcontrol =>
            obtain ⟨n, rfl, hn⟩ := ih h
            exact ⟨c :: n, rfl, .plain hquote hback hcontrol hn⟩

/-! ## Numbers -/

theorem digits_cons {d : Char} (hd : d.isDigit = true) (s : List Char) :
    Digits (d :: (spanDigits s).1) := by
  refine ⟨List.cons_ne_nil _ _, fun c hc => ?_⟩
  rcases List.mem_cons.mp hc with rfl | hc
  · exact hd
  · exact Decimal.isDigit_of_mem_spanDigits hc

theorem spanSign_eq {s t : List Char} {negative : Bool} (h : spanSign s = (negative, t)) :
    ∃ sign, s = sign ++ t ∧ (sign = [] ∨ sign = ['+'] ∨ sign = ['-']) := by
  unfold spanSign at h
  split at h
  · cases h
    exact ⟨['+'], rfl, .inr (.inl rfl)⟩
  · cases h
    exact ⟨['-'], rfl, .inr (.inr rfl)⟩
  · cases h
    exact ⟨[], rfl, .inl rfl⟩

theorem exponent_of_passExponent? {s r : List Char} (h : passExponent? s = .ok r) :
    ∃ e, s = e ++ r ∧ Exponent e := by
  unfold passExponent? at h
  split at h
  · cases h
    exact ⟨[], rfl, .absent⟩
  · next mark s =>
    split at h
    · next hmark =>
      unfold passExponent at h
      rcases hsign : spanSign s with ⟨negative, t⟩
      rw [hsign] at h
      dsimp only at h
      split at h
      · cases h
      · next d t =>
        split at h
        · next hd =>
          cases h
          obtain ⟨sign, rfl, hs⟩ := spanSign_eq hsign
          refine ⟨mark :: (sign ++ d :: (spanDigits t).1), ?_, .digits hmark hs (digits_cons hd t)⟩
          simp [Decimal.spanDigits_append]
        · cases h
    · cases h
      exact ⟨[], rfl, .absent⟩

theorem fraction_of_passFraction? {s r : List Char} (h : passFraction? s = .ok r) :
    ∃ f e, s = f ++ (e ++ r) ∧ Fraction f ∧ Exponent e := by
  unfold passFraction? at h
  split at h
  · next t =>
    have hsplit := Decimal.spanDigits_append t
    have hdigits := fun c => Decimal.isDigit_of_mem_spanDigits (s := t) (c := c)
    rcases hspan : spanDigits t with ⟨ds, u⟩
    rw [hspan] at h hsplit hdigits
    cases ds with
    | nil => cases h
    | cons d ds =>
      obtain ⟨e, rfl, he⟩ := exponent_of_passExponent? h
      exact ⟨'.' :: d :: ds, e, by simp [← hsplit], .digits ⟨List.cons_ne_nil d ds, hdigits⟩, he⟩
  · obtain ⟨e, rfl, he⟩ := exponent_of_passExponent? h
    exact ⟨[], e, rfl, .absent, he⟩

theorem numeral_of_passNumber {sign s r : List Char} (signed : sign = [] ∨ sign = ['-'])
    (h : passNumber s = .ok r) : ∃ v, sign ++ s = v ++ r ∧ Numeral v := by
  -- The digits before the point, and what has been passed over after them.
  have hparts : ∀ {leading t}, Leading leading → passFraction? t = .ok r →
      ∃ v, sign ++ (leading ++ t) = v ++ r ∧ Numeral v := by
    intro leading t hl ht
    obtain ⟨f, e, rfl, hf, he⟩ := fraction_of_passFraction? ht
    exact ⟨_, by simp, .parts signed hl hf he⟩
  have hzero : Leading ['0'] :=
    ⟨⟨List.cons_ne_nil _ _, fun d hd => List.mem_singleton.mp hd ▸ rfl⟩, fun _ => rfl⟩
  unfold passNumber at h
  split at h
  · cases h
  · split at h
    · split at h
      · cases h
      · exact hparts hzero h
    · cases h
      exact hparts hzero rfl
  · next c s hne =>
    split at h
    · next hc =>
      have hc0 : c ≠ '0' := hne
      have hleading : Leading (c :: (spanDigits s).1) :=
        ⟨digits_cons hc s, fun hhead => absurd (Option.some.inj hhead) hc0⟩
      have := hparts hleading h
      rwa [List.cons_append, Decimal.spanDigits_append] at this
    · cases h

/-! ## Between brackets -/

section

variable {β : Type} {all : β → List Char} {Q : β → Prop} {close : Closing}
  {item : List Char → Except Fault (List Char)}

/-- The items that follow are pieces after commas, if each makes one with the blanks after it. -/
theorem pieces_of_passItems
    (hitem : ∀ {s after r}, Blanks after → item s = .ok (after ++ r) → ∃ q, s = all q ++ r ∧ Q q)
    {fuel : Nat} {s r : List Char} (h : passItems close item fuel s = .ok r) :
    ∃ (after : List Char) (qs : List β),
      s = after ++ ((qs.map all).flatMap (',' :: ·) ++ close.bracket :: r) ∧
      Blanks after ∧ ∀ q ∈ qs, Q q := by
  induction fuel generalizing s with
  | zero => cases h
  | succ fuel ih =>
    obtain ⟨b, hs, hb⟩ := skipBlanks_split s
    rw [passItems] at h
    split at h
    · cases h
    · next c t hskip =>
      rw [hskip] at hs
      split at h
      · next hclose =>
        cases h
        exact ⟨b, [], by rw [hs, hclose]; rfl, hb, List.forall_mem_nil _⟩
      · split at h
        · next hcomma =>
          obtain ⟨u, hu, h⟩ := bind_eq_ok.mp h
          obtain ⟨after, qs, rfl, hafter, hqs⟩ := ih h
          obtain ⟨q, rfl, hq⟩ := hitem hafter hu
          refine ⟨b, q :: qs, ?_, hb, List.forall_mem_cons.mpr ⟨hq, hqs⟩⟩
          rw [hs, hcomma, List.map_cons, List.flatMap_cons, List.append_assoc, List.cons_append]
        · cases h

/-- What stands between brackets are pieces with commas between them. -/
theorem between_of_passAll
    (hitem : ∀ {s after r}, Blanks after → item s = .ok (after ++ r) → ∃ q, s = all q ++ r ∧ Q q)
    (hblanks : ∀ {b q}, Blanks b → Q q → ∃ p, all p = b ++ all q ∧ Q p) {s r : List Char}
    (h : passAll close item s = .ok r) :
    ∃ (body : List Char) (qs : List β), s = body ++ close.bracket :: r ∧
      Between (qs.map all) body ∧ ∀ q ∈ qs, Q q := by
  obtain ⟨b, hs, hb⟩ := skipBlanks_split s
  rw [passAll] at h
  split at h
  · cases h
  · next c t hskip =>
    rw [hskip] at hs
    split at h
    · next hclose =>
      cases h
      exact ⟨b, [], by rw [hs, hclose], .inr ⟨rfl, hb⟩, List.forall_mem_nil _⟩
    · obtain ⟨u, hu, h⟩ := bind_eq_ok.mp h
      obtain ⟨after, qs, rfl, hafter, hqs⟩ := pieces_of_passItems hitem h
      obtain ⟨q, hq, hQ⟩ := hitem hafter hu
      obtain ⟨p, hp, hP⟩ := hblanks hb hQ
      refine ⟨joined ((p :: qs).map all), p :: qs, ?_, .inl rfl,
        List.forall_mem_cons.mpr ⟨hP, hqs⟩⟩
      rw [hs, hq, List.map_cons, joined_cons, hp, List.append_assoc, List.append_assoc]

end

/-! ## Values -/

/-- The text goes on with a value of the grammar after blanks; the rest follows. -/
def ValueAt (s r : List Char) : Prop := ∃ b v, s = b ++ (v ++ r) ∧ Blanks b ∧ ValueText v

section

variable {value : List Char → Except Fault (List Char)}

/-- An item of a list makes a piece with the blanks after it. -/
theorem padded_of_value (hvalue : ∀ {s r}, value s = .ok r → ValueAt s r) {s after r : List Char}
    (hafter : Blanks after) (h : value s = .ok (after ++ r)) :
    ∃ p : Padded, s = p.all ++ r ∧ p.Spaced ∧ ValueText p.text := by
  obtain ⟨b, v, rfl, hb, hv⟩ := hvalue h
  exact ⟨⟨b, v, after⟩, by simp [Padded.all], ⟨hb, hafter⟩, hv⟩

/-- A member of an object makes a piece with the blanks after it. -/
theorem memberText_of_passMember (hvalue : ∀ {s r}, value s = .ok r → ValueAt s r)
    {s after r : List Char} (hafter : Blanks after) (h : passMember value s = .ok (after ++ r)) :
    ∃ m : MemberText, s = m.all ++ r ∧ m.Framed ∧ ValueText m.value.text := by
  obtain ⟨b, hs, hb⟩ := skipBlanks_split s
  rw [passMember] at h
  split at h
  · cases h
  · next c t hskip =>
    rw [hskip] at hs
    split at h
    · next hquote =>
      obtain ⟨u, hstring, hrest⟩ := bind_eq_ok.mp h
      obtain ⟨n, rfl, hn⟩ := letters_of_passChars hstring
      obtain ⟨b', hu, hb'⟩ := skipBlanks_split u
      split at hrest
      · cases hrest
      · next d w hskip' =>
        rw [hskip'] at hu
        split at hrest
        · next hcolon =>
          obtain ⟨b'', v, rfl, hb'', hv⟩ := hvalue hrest
          refine ⟨⟨⟨b, n, b'⟩, ⟨b'', v, after⟩⟩, ?_, ⟨⟨hb, hb'⟩, hn, ⟨hb'', hafter⟩⟩, hv⟩
          rw [hs, hu, hquote, hcolon]
          simp [MemberText.all, MemberText.front]
        · cases hrest
    · cases h

theorem valueAt_of_passFrom (hvalue : ∀ {s r}, value s = .ok r → ValueAt s r) {s r : List Char}
    (h : passFrom value s = .ok r) : ∃ v, s = v ++ r ∧ ValueText v := by
  cases s with
  | nil => cases h
  | cons c s =>
    rw [passFrom] at h
    split at h
    · next hc => exact ⟨_, by rw [hc, eq_append_of_word h]; rfl, .null⟩
    split at h
    · next hc => exact ⟨_, by rw [hc, eq_append_of_word h]; rfl, .yes⟩
    split at h
    · next hc => exact ⟨_, by rw [hc, eq_append_of_word h]; rfl, .no⟩
    split at h
    · next hc =>
      obtain ⟨v, hv, hnumeral⟩ := numeral_of_passNumber (.inr rfl) h
      exact ⟨v, by rw [hc, ← hv]; rfl, .numeral hnumeral⟩
    split at h
    · obtain ⟨v, hv, hnumeral⟩ := numeral_of_passNumber (.inl rfl) h
      exact ⟨v, hv, .numeral hnumeral⟩
    split at h
    · next hc =>
      obtain ⟨n, rfl, hn⟩ := letters_of_passChars h
      exact ⟨_, by rw [hc]; simp, .string hn⟩
    split at h
    · next hc =>
      obtain ⟨body, items, rfl, hbetween, hitems⟩ :=
        between_of_passAll (padded_of_value hvalue) (fun {b p} hb hp =>
          ⟨⟨b ++ p.before, p.text, p.after⟩, by simp [Padded.all],
            ⟨blanks_append hb hp.1.before, hp.1.after⟩, hp.2⟩) h
      refine ⟨'[' :: (body ++ [']']), by rw [hc]; simp [Closing.list], .list hbetween
        (fun p hp => (hitems p hp).1) (fun p hp => (hitems p hp).2)⟩
    split at h
    · next hc =>
      obtain ⟨body, ms, rfl, hbetween, hms⟩ :=
        between_of_passAll (memberText_of_passMember hvalue) (fun {b m} hb hm =>
          ⟨⟨⟨b ++ m.name.before, m.name.text, m.name.after⟩, m.value⟩,
            by simp [MemberText.all, MemberText.front],
            ⟨⟨blanks_append hb hm.1.name.before, hm.1.name.after⟩, hm.1.letters, hm.1.value⟩,
            hm.2⟩) h
      refine ⟨'\x7b' :: (body ++ ['\x7d']), by rw [hc]; simp [Closing.object], .object hbetween
        (fun m hm => (hms m hm).1) (fun m hm => (hms m hm).2)⟩
    · cases h

end

theorem valueAt_of_passValue {fuel : Nat} {s r : List Char} (h : passValue fuel s = .ok r) :
    ValueAt s r := by
  induction fuel generalizing s r with
  | zero => cases h
  | succ fuel ih =>
    obtain ⟨b, hs, hb⟩ := skipBlanks_split s
    obtain ⟨v, hv, hvalue⟩ := valueAt_of_passFrom ih h
    exact ⟨b, v, hv ▸ hs, hb, hvalue⟩

/-- **What is passed over is a value of the grammar,** after blanks. -/
theorem valueText_of_pass {s r : List Char} (h : pass s = .ok r) : ValueAt s r :=
  valueAt_of_passValue h

/-! ## Objects and lists that are read -/

theorem blanks_of_skipBlanks {s : List Char} (h : skipBlanks s = []) : Blanks s := by
  obtain ⟨b, hs, hb⟩ := skipBlanks_split s
  rw [hs, h, List.append_nil]
  exact hb

/-- A value that opens with a brace is an object. -/
theorem ValueText.object_of_head {s b a : List Char} (h : ValueText ('\x7b' :: s)) (hb : Blanks b)
    (ha : Blanks a) : ∃ ms, ObjectText (b ++ ('\x7b' :: s ++ a)) ms := by
  cases h with
  | object between framed values =>
    rw [List.cons_append, List.append_assoc]
    exact ⟨_, .intro hb ha between framed values⟩
  | numeral h => exact absurd h (not_numeral_cons (by decide) rfl)

/-- A value that opens with a bracket is a list. -/
theorem ValueText.list_of_head {s b a : List Char} (h : ValueText ('[' :: s)) (hb : Blanks b)
    (ha : Blanks a) : ∃ vs, ListText (b ++ ('[' :: s ++ a)) vs := by
  cases h with
  | list between spaced values =>
    rw [List.cons_append, List.append_assoc]
    exact ⟨_, .intro hb ha between spaced values⟩
  | numeral h => exact absurd h (not_numeral_cons (by decide) rfl)

/-- The value is the first one in the text. -/
def FirstIn (v s : List Char) : Prop := ∃ r, skipBlanks s = v ++ r

/-- A member of the grammar is the one that has been read. -/
def Matches (read : String × List Char) (m : List Char × List Char) : Prop :=
  Spells m.1 read.1.toList ∧ FirstIn m.2 read.2

theorem matches_member {m : MemberText} (h : m.Framed) (hv : ValueText m.value.text)
    {s u v w : List Char} {name : String} (hs : Stops (m.value.after ++ s))
    (named : stringTail (m.fromName s) = .ok (name, u)) (hcolon : colon u = .ok v)
    (value : pass v = .ok w) : Matches (name, v) m.pair ∧ w = m.value.after ++ s := by
  obtain ⟨rfl, hspells⟩ := stringTail_letters_eq_ok h.letters named
  have hskip := colon_eq_ok hcolon
  rw [skipBlanks_blanks_cons h.name.after rfl] at hskip
  cases hskip
  have hfirst : skipBlanks (m.value.before ++ (m.value.text ++ (m.value.after ++ s))) =
      m.value.text ++ (m.value.after ++ s) := by
    rw [skipBlanks_blanks h.value.before, skipBlanks_value hv]
  refine ⟨⟨hspells, _, hfirst⟩, ?_⟩
  have hpass := pass_of_skipBlanks (hfirst ▸ pass_value hv hs)
  exact Except.ok.inj (value.symm.trans hpass)

theorem membersAt_end {b : List Char} (hb : Blanks b) {first : Bool} {r q : List Char}
    {ns : List (String × List Char)} (h : MembersAt first (b ++ '\x7d' :: r) ns q) : ns = [] := by
  cases h with
  | done => rfl
  | next opens =>
    unfold nextName at opens
    rw [skipBlanks_blanks_cons hb rfl] at opens
    cases opens

theorem matches_of_pieces {ms : List MemberText} (framed : ∀ m ∈ ms, m.Framed)
    (values : ∀ m ∈ ms, ValueText m.value.text) {after r q : List Char} (hafter : Blanks after)
    {ns : List (String × List Char)}
    (h : MembersAt false (after ++ ((ms.map (·.all)).flatMap (',' :: ·) ++ '\x7d' :: r)) ns q) :
    List.Forall₂ Matches ns (ms.map (·.pair)) := by
  induction ms generalizing after ns with
  | nil =>
    obtain rfl := membersAt_end hafter h
    exact .nil
  | cons m ms ih =>
    obtain ⟨hm, hms⟩ := List.forall_mem_cons.mp framed
    obtain ⟨hv, hvs⟩ := List.forall_mem_cons.mp values
    have hskip := skipBlanks_blanks_cons hafter (show isBlank ',' = false from rfl)
      (m.all ++ ((ms.map (·.all)).flatMap (',' :: ·) ++ '\x7d' :: r))
    rw [List.map_cons, List.flatMap_cons, List.append_assoc, List.cons_append] at h
    cases h with
    | done close =>
      have hclose := nextName_done close
      rw [hskip] at hclose
      cases hclose
    | next opens named hcolon value rest =>
      obtain ⟨t, hcomma, hquote⟩ := nextName_next opens
      rw [hskip] at hcomma
      cases hcomma
      rw [MemberText.all_append, skipBlanks_blanks_cons hm.name.before rfl] at hquote
      cases hquote
      have hstops := @stops_after .object _ hm.value.after rfl (ms.map (·.all)) r
      obtain ⟨hmatches, rfl⟩ := matches_member hm hv hstops named hcolon value
      exact .cons hmatches (ih hms hvs hm.value.after rest)

/-- An object that is read member by member has the members of its text. -/
theorem ObjectText.matches {s : List Char} {ms : List (List Char × List Char)}
    (h : ObjectText s ms) {ns : List (String × List Char)} {q : List Char}
    (hread : ObjectAt s ns q) : List.Forall₂ Matches ns ms := by
  obtain ⟨u, hbrace, hns⟩ := hread
  cases h with
  | @intro ms before s after hbefore hafter between framed values =>
    rw [skipBlanks_blanks_cons hbefore rfl] at hbrace
    cases hbrace
    rcases between with rfl | ⟨hnil, hb⟩
    · cases ms with
      | nil =>
        obtain rfl := membersAt_end blanks_nil hns
        exact .nil
      | cons m ms =>
        obtain ⟨hm, hms⟩ := List.forall_mem_cons.mp framed
        obtain ⟨hv, hvs⟩ := List.forall_mem_cons.mp values
        rw [List.map_cons, joined_cons, List.append_assoc, MemberText.all_append] at hns
        have hskip := skipBlanks_blanks_cons hm.name.before (show isBlank '"' = false from rfl)
          (m.fromName ((ms.map (·.all)).flatMap (',' :: ·) ++ '\x7d' :: after))
        cases hns with
        | done close =>
          have hclose := nextName_done close
          rw [hskip] at hclose
          cases hclose
        | next opens named hcolon value rest =>
          have hquote := nextName_next_first opens
          rw [hskip] at hquote
          cases hquote
          have hstops := @stops_after .object _ hm.value.after rfl (ms.map (·.all)) after
          obtain ⟨hmatches, rfl⟩ := matches_member hm hv hstops named hcolon value
          exact .cons hmatches (matches_of_pieces hms hvs hm.value.after rest)
    · obtain rfl := membersAt_end hb hns
      rw [List.map_eq_nil_iff.mp hnil]
      exact .nil

theorem itemsAt_end {b : List Char} (hb : Blanks b) {first : Bool} {r q : List Char}
    {vs : List (List Char)} (h : ItemsAt first (b ++ ']' :: r) vs q) : vs = [] := by
  cases h with
  | done => rfl
  | next opens =>
    unfold nextItem at opens
    rw [skipBlanks_blanks_cons hb rfl] at opens
    cases opens

/-- A value with blanks around it is the first one in what it starts. -/
theorem skipBlanks_padded {p : Padded} (h : p.Spaced) (hv : ValueText p.text) (s : List Char) :
    skipBlanks (p.all ++ s) = p.text ++ (p.after ++ s) := by
  rw [Padded.all, List.append_assoc, List.append_assoc, skipBlanks_blanks h.before,
    skipBlanks_value hv]

theorem firstIn_of_pieces {items : List Padded} (spaced : ∀ p ∈ items, p.Spaced)
    (values : ∀ p ∈ items, ValueText p.text) {after r q : List Char} (hafter : Blanks after)
    {vs : List (List Char)}
    (h : ItemsAt false (after ++ ((items.map (·.all)).flatMap (',' :: ·) ++ ']' :: r)) vs q) :
    List.Forall₂ FirstIn (items.map (·.text)) vs := by
  induction items generalizing after vs with
  | nil =>
    obtain rfl := itemsAt_end hafter h
    exact .nil
  | cons p items ih =>
    obtain ⟨hp, hitems⟩ := List.forall_mem_cons.mp spaced
    obtain ⟨hv, hvs⟩ := List.forall_mem_cons.mp values
    have hskip := skipBlanks_blanks_cons hafter (show isBlank ',' = false from rfl)
      (p.all ++ ((items.map (·.all)).flatMap (',' :: ·) ++ ']' :: r))
    rw [List.map_cons, List.flatMap_cons, List.append_assoc, List.cons_append] at h
    cases h with
    | done close =>
      have hclose := nextItem_done close
      rw [hskip] at hclose
      cases hclose
    | next opens value rest =>
      obtain ⟨t, _, _, hcomma, -, -, rfl⟩ := nextItem_next opens
      rw [hskip] at hcomma
      cases hcomma
      rw [skipBlanks_padded hp hv] at value
      have hstops := @stops_after .list _ hp.after rfl (items.map (·.all)) r
      cases value.symm.trans (pass_value hv hstops)
      exact .cons ⟨_, by rw [skipBlanks_skipBlanks, skipBlanks_padded hp hv]⟩
        (ih hitems hvs hp.after rest)

/-- A list that is read item by item has the items of its text. -/
theorem ListText.firstIn {s : List Char} {items : List (List Char)} (h : ListText s items)
    {vs : List (List Char)} {q : List Char} (hread : ListAt s vs q) :
    List.Forall₂ FirstIn items vs := by
  obtain ⟨u, hbracket, hvs⟩ := hread
  cases h with
  | @intro items before s after hbefore hafter between spaced values =>
    rw [skipBlanks_blanks_cons hbefore rfl] at hbracket
    cases hbracket
    rcases between with rfl | ⟨hnil, hb⟩
    · cases items with
      | nil =>
        obtain rfl := itemsAt_end blanks_nil hvs
        exact .nil
      | cons p items =>
        obtain ⟨hp, hitems⟩ := List.forall_mem_cons.mp spaced
        obtain ⟨hv, hvals⟩ := List.forall_mem_cons.mp values
        rw [List.map_cons, joined_cons, List.append_assoc] at hvs
        have hskip := skipBlanks_padded hp hv
          ((items.map (·.all)).flatMap (',' :: ·) ++ ']' :: after)
        obtain ⟨c, t, htext, -, hne⟩ := hv.opens (.inl rfl)
        cases hvs with
        | done close =>
          have hclose := nextItem_done close
          rw [hskip, htext] at hclose
          exact absurd (List.cons.inj hclose).1 hne
        | next opens value rest =>
          obtain ⟨d, w, hd, -, rfl⟩ := nextItem_next_first opens
          rw [← hd, hskip] at value ⊢
          have hstops := @stops_after .list _ hp.after rfl (items.map (·.all)) after
          cases value.symm.trans (pass_value hv hstops)
          have hfirst : FirstIn p.text (p.text ++ (p.after ++
              ((items.map (·.all)).flatMap (',' :: ·) ++ ']' :: after))) :=
            ⟨_, skipBlanks_value hv _⟩
          exact .cons hfirst (firstIn_of_pieces hitems hvals hp.after rest)
    · obtain rfl := itemsAt_end hb hvs
      rw [List.map_eq_nil_iff.mp hnil]
      exact .nil

/-! ## From what is read to the grammar -/

theorem ValueText.head_of_append {v r u : List Char} {c : Char} (h : ValueText v)
    (happ : v ++ r = c :: u) : ∃ s, v = c :: s ∧ u = s ++ r := by
  obtain ⟨d, s, rfl, -, -⟩ := h.opens (.inl rfl)
  obtain ⟨rfl, hu⟩ := List.cons.inj happ
  exact ⟨s, rfl, hu.symm⟩

/-- A text that is read as an object holds one, with the members that are read. -/
theorem ObjectAt.objectText {s r : List Char} {ns : List (String × List Char)}
    (h : ObjectAt s ns r) (hr : Blanks r) :
    ∃ ms, ObjectText s ms ∧ List.Forall₂ Matches ns ms := by
  obtain ⟨u, hbrace, hns⟩ := id h
  obtain ⟨b, v, rfl, hb, hv⟩ := valueText_of_pass (pass_of_membersAt hbrace hns)
  rw [skipBlanks_blanks hb, skipBlanks_value hv] at hbrace
  obtain ⟨t, rfl, -⟩ := hv.head_of_append hbrace
  obtain ⟨ms, hms⟩ := hv.object_of_head hb hr
  exact ⟨ms, hms, hms.matches h⟩

/-- A text that is read as a list holds one, with the items that are read. -/
theorem ListAt.listText {s r : List Char} {vs : List (List Char)} (h : ListAt s vs r)
    (hr : Blanks r) : ∃ items, ListText s items ∧ List.Forall₂ FirstIn items vs := by
  obtain ⟨u, hbracket, hvs⟩ := id h
  obtain ⟨b, v, rfl, hb, hv⟩ := valueText_of_pass (pass_of_itemsAt hbracket hvs)
  rw [skipBlanks_blanks hb, skipBlanks_value hv] at hbracket
  obtain ⟨t, rfl, -⟩ := hv.head_of_append hbracket
  obtain ⟨items, hitems⟩ := hv.list_of_head hb hr
  exact ⟨items, hitems, hitems.firstIn h⟩

/-- No object and list start alike. -/
theorem not_both_start {v w r q : List Char} {ms : List (List Char × List Char)}
    {vs : List (List Char)} (h : ObjectText v ms) (h' : ListText w vs) : v ++ r ≠ w ++ q := by
  intro heq
  obtain ⟨u, hbrace⟩ := h.opens r
  obtain ⟨t, hbracket⟩ := h'.opens q
  rw [heq, hbracket] at hbrace
  cases hbrace

end Switchboard.Json
