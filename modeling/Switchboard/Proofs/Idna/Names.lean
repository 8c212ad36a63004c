import Switchboard.Idna.Domain
import Switchboard.Proofs.Idna.Composing
/-
  The ASCII form of a host name. All its characters are ones that host names may have (`InName`):
  ASCII, no capital letters, and none that is refused (`inName_of_domainToAscii?`). A label in
  Punycode has such characters because what it was read from, or what it stands for, has passed the
  same checks. Such a name is its own ASCII form, if it has one (`domainToAscii?_again`).
-/
namespace Switchboard.Idna

open Switchboard.Text

/-- The characters of the ASCII form of a name. -/
structure InName (c : Char) : Prop where
  ascii : c.toNat < 0x80
  lower : c.isUpper = false
  allowed : isForbidden c = false

instance (c : Char) : Decidable (InName c) :=
  decidable_of_iff (c.toNat < 0x80 ∧ c.isUpper = false ∧ isForbidden c = false)
    ⟨fun ⟨a, b, d⟩ => ⟨a, b, d⟩, fun ⟨a, b, d⟩ => ⟨a, b, d⟩⟩

/-! ## Reading Punycode -/

namespace Punycode

/-- A digit is an ASCII letter or digit, and so may stand in a name. -/
theorem allowed_of_digitOf? {c : Char} (h : (digitOf? c).isSome = true) :
    c.toNat < 0x80 ∧ isForbidden c = false := by
  have hascii : c.toNat < 0x80 := by
    unfold digitOf? at h
    split at h
    · next hc => exact Nat.lt_of_le_of_lt (toNat_le_toNat hc.2) (by decide)
    · split at h
      · next hc => exact Nat.lt_of_le_of_lt (toNat_le_toNat hc.2) (by decide)
      · split at h
        · next hc => exact Nat.lt_of_le_of_lt (toNat_le_toNat hc.2) (by decide)
        · cases h
  exact ⟨hascii, forall_ascii (p := fun c => (digitOf? c).isSome = true → isForbidden c = false)
    (by decide) hascii h⟩

/-- Every step takes a digit and keeps the characters that the label has. -/
theorem digit_of_step? {s s' : Decoding} {c : Char} (h : s.step? c = some s') :
    (digitOf? c).isSome = true ∧ s.label ⊆ s'.label := by
  unfold Decoding.step? at h
  cases hdigit : digitOf? c with
  | none =>
    rw [hdigit] at h
    cases h
  | some d =>
    refine ⟨rfl, ?_⟩
    simp only [hdigit, Option.bind_eq_bind, Option.bind_some] at h
    split at h
    · obtain ⟨e, -, h⟩ := Option.bind_eq_some_iff.mp h
      cases h
      intro x hx
      rw [← List.take_append_drop ((s.place + d * s.weight) % (s.label.length + 1)) s.label] at hx
      exact (List.mem_append.mp hx).elim (List.mem_append_left _)
        fun hx => List.mem_append_right _ (List.mem_cons_of_mem e hx)
    · cases h
      exact List.Subset.refl _

theorem digit_of_run? {s : Decoding} {cs label : List Char} (h : s.run? cs = some label) :
    (∀ c ∈ cs, (digitOf? c).isSome = true) ∧ s.label ⊆ label := by
  induction cs generalizing s with
  | nil =>
    unfold Decoding.run? at h
    split at h
    · cases h
      exact ⟨nofun, List.Subset.refl _⟩
    · cases h
  | cons c cs ih =>
    unfold Decoding.run? at h
    obtain ⟨s', hstep, hrun⟩ := Option.bind_eq_some_iff.mp h
    obtain ⟨hdigit, hlabel⟩ := digit_of_step? hstep
    obtain ⟨hdigits, hrest⟩ := ih hrun
    exact ⟨List.forall_mem_cons.mpr ⟨hdigit, hdigits⟩, List.Subset.trans hlabel hrest⟩

/-- Splitting at the last hyphen loses only this hyphen. -/
theorem mem_splitLast {s : List Char} {c : Char} (h : c ∈ s) :
    c ∈ (splitLast s).1 ∨ c = '-' ∨ c ∈ (splitLast s).2 := by
  unfold splitLast
  dsimp only
  split
  · exact .inr (.inr h)
  · by_cases hmark : '-' ∈ s
    · obtain ⟨a, b, rfl, hb⟩ := exists_last_of_mem hmark
      have hsize : (a ++ '-' :: b).length - b.length - 1 = a.length := by
        rw [List.length_append, List.length_cons]
        omega
      rw [afterLast_append hb, hsize, List.take_left]
      simpa using h
    · rw [afterLast_of_not_mem hmark]
      exact .inr (.inr h)

/-- The characters of a label that is read are ASCII, and each is allowed or stands in what is
    read. -/
theorem mem_of_decode? {s shown : List Char} (h : decode? s = some shown) {c : Char} (hc : c ∈ s) :
    c.toNat < 0x80 ∧ (c ∈ shown ∨ isForbidden c = false) := by
  unfold decode? at h
  dsimp only at h
  split at h
  · cases h
  · next hcheck =>
    obtain ⟨hdigits, hbasic⟩ := digit_of_run? h
    rcases mem_splitLast hc with hc | rfl | hc
    · refine ⟨Nat.not_le.mp fun hlarge => hcheck (.inr ?_), .inl (hbasic hc)⟩
      exact List.any_eq_true.mpr ⟨c, hc, decide_eq_true hlarge⟩
    · exact ⟨by decide, .inr (by decide)⟩
    · obtain ⟨hascii, hallowed⟩ := allowed_of_digitOf? (hdigits c hc)
      exact ⟨hascii, .inr hallowed⟩

/-! ## Writing Punycode -/

theorem inName_charOf {d : Nat} (h : d < 36) : InName (charOf d) := by
  have hall : ∀ d < 36, InName (charOf d) := by decide
  exact hall d h

theorem inName_digits (bias k delta : Nat) : ∀ c ∈ digits bias k delta, InName c := by
  fun_induction digits bias k delta with
  | case1 k delta t hlast =>
    intro c hc
    have := threshold_le k bias
    cases List.mem_singleton.mp hc
    exact inName_charOf (by omega)
  | case2 k delta t hmore ih =>
    have hle := threshold_le k bias
    have hmod : (delta - t) % (36 - t) < 36 - t := Nat.mod_lt _ (by omega)
    exact List.forall_mem_cons.mpr ⟨inName_charOf (by omega), ih⟩

section

variable {basics : Nat} {p : Char → Prop} (hp : ∀ c, InName c → p c)

include hp

theorem output_pass {m : Nat} {s : Encoding} {c : Char} (h : ∀ d ∈ s.output, p d) :
    ∀ d ∈ (s.pass basics m c).output, p d := by
  unfold Encoding.pass
  split
  · exact h
  · split
    · intro d hd
      exact (List.mem_append.mp hd).elim (h d) fun hd => hp d (inName_digits _ _ _ d hd)
    · exact h

theorem output_foldl {m : Nat} {label : List Char} {s : Encoding} (h : ∀ d ∈ s.output, p d) :
    ∀ d ∈ (label.foldl (Encoding.pass basics m) s).output, p d := by
  induction label generalizing s with
  | nil => exact h
  | cons c label ih => exact ih (output_pass hp h)

/-- What is written of a label, apart from what has been written before, are digits. -/
theorem output_insertAll {label : List Char} {s : Encoding} {next : Nat} {points : List Nat}
    (h : ∀ d ∈ s.output, p d) :
    ∀ d ∈ (Encoding.insertAll label basics s next points).output, p d := by
  induction points generalizing s next with
  | nil => exact h
  | cons m points ih => exact ih (output_foldl hp h)

end

/-- The characters of a label that is written are those of the label in ASCII, and others that names
    may have. -/
theorem mem_of_encode? {label written : List Char} (h : encode? label = some written) :
    ∀ c ∈ written, InName c ∨ (c ∈ label ∧ c.toNat < 0x80) := by
  unfold encode? at h
  dsimp only at h
  split at h
  · cases h
  · cases h
    refine output_insertAll (fun c hc => .inl hc) fun c hc => ?_
    dsimp only at hc
    split at hc
    · cases hc
    · rcases List.mem_append.mp hc with hc | hc
      · obtain ⟨hc, hascii⟩ := List.mem_filter.mp hc
        exact .inr ⟨hc, of_decide_eq_true hascii⟩
      · cases List.mem_singleton.mp hc
        exact .inl (by decide)

end Punycode

/-! ## Labels -/

theorem allowed_of_isWellFormed {s : List Char} (h : isWellFormed s = true) :
    ∀ c ∈ s, isForbidden c = false := by
  unfold isWellFormed at h
  simp only [Bool.and_eq_true, Bool.not_eq_true', List.any_eq_false, Bool.not_eq_true] at h
  exact h.1.1

theorem mem_isAscii {s : List Char} (h : isAscii s = true) {c : Char} (hc : c ∈ s) :
    c.toNat < 0x80 := of_decide_eq_true (List.all_eq_true.mp h c hc)

theorem inName_aceMark : ∀ c ∈ aceMark, InName c := by
  unfold aceMark
  simp only [List.forall_mem_cons]
  exact ⟨by decide, by decide, by decide, by decide, nofun⟩

/-- A label without capital letters has an ASCII form in which all characters may stand in names. -/
theorem inName_of_label {s : List Char} (hs : ∀ c ∈ s, c.isUpper = false) {l : Label}
    (h : Label.ofText? s = some l) : ∀ c ∈ l.ascii, InName c := by
  unfold Label.ofText? at h
  split at h
  · next hmark =>
    obtain ⟨r, rfl⟩ := begins_iff.mp hmark
    obtain ⟨shown, hdecode, h⟩ := Option.bind_eq_some_iff.mp h
    split at h
    · next hcheck =>
      cases h
      simp only [Bool.and_eq_true] at hcheck
      intro c hc
      rcases List.mem_append.mp hc with hace | hr
      · exact inName_aceMark c hace
      · obtain ⟨hascii, hallowed⟩ := Punycode.mem_of_decode? hdecode hr
        exact ⟨hascii, hs c hc, hallowed.elim (allowed_of_isWellFormed hcheck.2 c) id⟩
    · cases h
  · split at h
    · cases h
    · next hwell =>
      rw [Bool.not_eq_true, Bool.not_eq_false'] at hwell
      have hallowed := allowed_of_isWellFormed hwell
      split at h
      · next hascii =>
        cases h
        exact fun c hc => ⟨mem_isAscii hascii hc, hs c hc, hallowed c hc⟩
      · obtain ⟨written, hencode, h⟩ := Option.bind_eq_some_iff.mp h
        cases h
        intro c hc
        rcases List.mem_append.mp hc with hace | hwritten
        · exact inName_aceMark c hace
        · rcases Punycode.mem_of_encode? hencode c hwritten with hc | ⟨hc, hascii⟩
          · exact hc
          · exact ⟨hascii, hs c hc, hallowed c hc⟩

/-- A label in ASCII is its own ASCII form. -/
theorem ascii_of_label {s : List Char} (hs : ∀ c ∈ s, c.toNat < 0x80) {l : Label}
    (h : Label.ofText? s = some l) : l.ascii = s := by
  unfold Label.ofText? at h
  split at h
  · obtain ⟨shown, -, h⟩ := Option.bind_eq_some_iff.mp h
    split at h
    · cases h
      rfl
    · cases h
  · split at h
    · cases h
    · have hascii : isAscii s = true :=
        List.all_eq_true.mpr fun c hc => decide_eq_true (hs c hc)
      rw [if_pos hascii] at h
      cases h
      rfl

/-! ## Names -/

section

variable {α β : Type} {f : α → Option β} {l : List α} {r : List β}

theorem exists_of_mem_mapM (h : l.mapM f = some r) {b : β} (hb : b ∈ r) :
    ∃ a ∈ l, f a = some b := by
  induction l generalizing r with
  | nil =>
    cases h
    cases hb
  | cons a l ih =>
    rw [List.mapM_cons] at h
    obtain ⟨x, hx, h⟩ := Option.bind_eq_some_iff.mp h
    obtain ⟨xs, hxs, h⟩ := Option.bind_eq_some_iff.mp h
    cases h
    rcases List.mem_cons.mp hb with rfl | hb
    · exact ⟨a, List.mem_cons_self, hx⟩
    · exact (ih hxs hb).imp fun _ h => h.imp_left (List.mem_cons_of_mem a)

theorem map_of_mapM {g : β → α} (hg : ∀ a ∈ l, ∀ b, f a = some b → g b = a)
    (h : l.mapM f = some r) : r.map g = l := by
  induction l generalizing r with
  | nil =>
    cases h
    rfl
  | cons a l ih =>
    rw [List.mapM_cons] at h
    obtain ⟨x, hx, h⟩ := Option.bind_eq_some_iff.mp h
    obtain ⟨xs, hxs, h⟩ := Option.bind_eq_some_iff.mp h
    cases h
    rw [List.map_cons, hg a List.mem_cons_self x hx,
      ih (fun b hb => hg b (List.mem_cons_of_mem a hb)) hxs]

end

theorem capital_free_of_mapName? {s mapped : List Char} (h : mapName? s = some mapped) :
    ∀ c ∈ mapped, hasCapital c.toNat = false := by
  induction s generalizing mapped with
  | nil =>
    cases h
    nofun
  | cons c s ih =>
    unfold mapName? at h
    obtain ⟨a, ha, h⟩ := Option.bind_eq_some_iff.mp h
    obtain ⟨b, hb, h⟩ := Option.bind_eq_some_iff.mp h
    cases h
    exact fun d hd =>
      (List.mem_append.mp hd).elim (capital_free_of_mapChar? ha d) (ih hb d)

/-- Every character of the ASCII form of a name may stand in names. -/
theorem inName_of_domainToAscii? {s domain : List Char} (h : domainToAscii? s = some domain) :
    ∀ c ∈ domain, InName c := by
  unfold domainToAscii? at h
  obtain ⟨mapped, hmap, h⟩ := Option.bind_eq_some_iff.mp h
  obtain ⟨labels, hlabels, h⟩ := Option.bind_eq_some_iff.mp h
  split at h
  · cases h
  · cases h
    intro c hc
    rcases mem_intercalate hc with rfl | ⟨t, ht, hc⟩
    · decide
    · obtain ⟨l, hl, rfl⟩ := List.mem_map.mp ht
      obtain ⟨p, hp, hlabel⟩ := exists_of_mem_mapM hlabels hl
      refine inName_of_label (fun d hd => ?_) hlabel c hc
      exact not_isUpper_of_mem_composed (capital_free_of_mapName? hmap) (mem_of_mem_pieces hp hd)

theorem mapName?_of_lower {s : List Char} (hascii : ∀ c ∈ s, c.toNat < 0x80)
    (hlower : ∀ c ∈ s, c.isUpper = false) : mapName? s = some s := by
  induction s with
  | nil => rfl
  | cons c s ih =>
    have hc : mapChar? c = some [c] := by
      unfold mapChar?
      rw [if_pos (hascii c List.mem_cons_self),
        toLower_of_not_isUpper (hlower c List.mem_cons_self)]
    unfold mapName?
    rw [hc, ih (fun d hd => hascii d (List.mem_cons_of_mem c hd))
      fun d hd => hlower d (List.mem_cons_of_mem c hd)]
    rfl

/-- A name in ASCII without capital letters is its own ASCII form, if it has one. -/
theorem domainToAscii?_again {s domain : List Char} (hascii : ∀ c ∈ s, c.toNat < 0x80)
    (hlower : ∀ c ∈ s, c.isUpper = false) (h : domainToAscii? s = some domain) : domain = s := by
  unfold domainToAscii? at h
  rw [mapName?_of_lower hascii hlower, Option.bind_eq_bind, Option.bind_some,
    composed_of_ascii hascii] at h
  obtain ⟨labels, hlabels, h⟩ := Option.bind_eq_some_iff.mp h
  split at h
  · cases h
  · cases h
    have hlabel : ∀ p ∈ pieces '.' s, ∀ l, Label.ofText? p = some l → l.ascii = p :=
      fun p hp l => ascii_of_label fun c hc => hascii c (mem_of_mem_pieces hp hc)
    rw [map_of_mapM hlabel hlabels, intercalate_pieces]

end Switchboard.Idna
