import Switchboard.Proofs.Text.Splitting
import Switchboard.Url.Address
/-
  Addresses are read as they are written. The four bytes of an IPv4 address are the four parts of its
  text (`ipv4_text_of_ofText?`). The groups of an IPv6 address are read one by one
  (`readGroups_writeGroups`), and what the gap in its text stands for is the run of zeros that was
  left out (`ipv6_ofText?_text`).
-/
namespace Switchboard.Url

open Switchboard.Decimal (digitsOf)
open Switchboard.Text

/-! ## IPv4 -/

theorem point_not_mem_digitsOf (n : Nat) : '.' ∉ digitsOf n := fun h => by
  have := Decimal.isDigit_of_mem_digitsOf h
  cases this

/-- A byte in decimal digits is read as the byte. -/
theorem ofText_digitsOf {n : Nat} (h : n < 256) : AddressPart.ofText (digitsOf n) = .number n := by
  have hall : ∀ n < 256, AddressPart.ofText (digitsOf n) = .number n := by decide +kernel
  exact hall n h

theorem ipv4_text_eq (a : Ipv4) :
    a.text = digitsOf (a.value / 0x1000000 % 256) ++ '.' :: (digitsOf (a.value / 0x10000 % 256) ++
      '.' :: (digitsOf (a.value / 0x100 % 256) ++ '.' :: digitsOf (a.value % 256))) := by
  simp [Ipv4.text, List.intercalate]

theorem value_of_ofNumbers? {p q r s : Nat} {b : Ipv4} (h : Ipv4.ofNumbers? [p, q, r] s = some b) :
    b.value = ((p * 256 + q) * 256 + r) * 256 + s := by
  unfold Ipv4.ofNumbers? at h
  split at h
  · cases h
  · cases h
    simp [Nat.mul_comm]

/-- The text of an address is read as an address with the same text. -/
theorem ipv4_text_of_ofText? {a b : Ipv4} (h : Ipv4.ofText? a.text = some b) : b.text = a.text := by
  have hpieces : pieces '.' a.text = [digitsOf (a.value / 0x1000000 % 256),
      digitsOf (a.value / 0x10000 % 256), digitsOf (a.value / 0x100 % 256),
      digitsOf (a.value % 256)] := by
    rw [ipv4_text_eq, pieces_append (point_not_mem_digitsOf _),
      pieces_append (point_not_mem_digitsOf _), pieces_append (point_not_mem_digitsOf _),
      pieces_of_not_mem (point_not_mem_digitsOf _)]
  have hlast : digitsOf (a.value % 256) ≠ [] := Decimal.digitsOf_ne_nil _
  have hbyte : ∀ n : Nat, AddressPart.ofText (digitsOf (n % 256)) = .number (n % 256) := fun n =>
    ofText_digitsOf (Nat.mod_lt n (by decide))
  unfold Ipv4.ofText? at h
  simp only [hpieces, List.getLast?_cons_cons, List.getLast?_singleton, Option.some.injEq, hlast,
    if_false, List.length_cons, List.length_nil, partNumbers?, hbyte, Option.map_some] at h
  have hvalue : b.value = ((a.value / 0x1000000 % 256 * 256 + a.value / 0x10000 % 256) * 256 +
      a.value / 0x100 % 256) * 256 + a.value % 256 := value_of_ofNumbers? h
  have hparts : b.value / 0x1000000 % 256 = a.value / 0x1000000 % 256 ∧
      b.value / 0x10000 % 256 = a.value / 0x10000 % 256 ∧
      b.value / 0x100 % 256 = a.value / 0x100 % 256 ∧ b.value % 256 = a.value % 256 := by
    omega
  rw [ipv4_text_eq, ipv4_text_eq, hparts.1, hparts.2.1, hparts.2.2.1, hparts.2.2.2]

/-! ## Groups of IPv6 -/

theorem hexDigits_cons (n : Nat) : ∃ c r, hexDigits n = c :: r :=
  List.exists_cons_of_ne_nil Nat.toDigits_ne_nil

/-- Adds groups, one after the other. -/
def Groups.pushAll (g : Groups) (ns : List Nat) : Groups := ns.foldl Groups.push g

/-- A number of 16 bits. -/
def IsGroup (n : Nat) : Prop := n < 0x10000

theorem digitChar_hex {d : Nat} (h : d < 16) : hexValue? (Nat.digitChar d) = some d := by
  have hall : ∀ d < 16, hexValue? (Nat.digitChar d) = some d := by decide
  exact hall d h

theorem hexNumber_append_digit (s : List Char) {d : Nat} (h : d < 16) :
    hexNumber (s ++ [Nat.digitChar d]) = 16 * hexNumber s + d := by
  rw [hexNumber, List.foldl_append, List.foldl_cons, List.foldl_nil, digitChar_hex h]
  rfl

theorem hexNumber_hexDigits (n : Nat) : hexNumber (hexDigits n) = n := by
  induction n using Nat.strongRecOn with
  | ind n ih =>
    by_cases hlt : n < 16
    · rw [hexDigits, Nat.toDigits_of_lt_base hlt, ← List.nil_append [_],
        hexNumber_append_digit [] hlt]
      exact Nat.zero_add n
    · rw [hexDigits, Nat.toDigits_of_base_le (by decide) (by omega),
        hexNumber_append_digit _ (Nat.mod_lt n (by decide))]
      have hrest := ih (n / 16) (by omega)
      rw [hexDigits] at hrest
      rw [hrest]
      omega

theorem isHex_of_mem_hexDigits {n : Nat} {c : Char} (h : c ∈ hexDigits n) :
    (hexValue? c).isSome = true := by
  induction n using Nat.strongRecOn with
  | ind n ih =>
    by_cases hlt : n < 16
    · rw [hexDigits, Nat.toDigits_of_lt_base hlt, List.mem_singleton] at h
      rw [h, digitChar_hex hlt]
      rfl
    · rw [hexDigits, Nat.toDigits_of_base_le (by decide) (by omega), List.mem_append,
        List.mem_singleton] at h
      rcases h with h | h
      · exact ih (n / 16) (by omega) h
      · rw [h, digitChar_hex (Nat.mod_lt n (by decide))]
        rfl

theorem colon_not_mem_hexDigits (n : Nat) : ':' ∉ hexDigits n := fun h => by
  cases isHex_of_mem_hexDigits h

theorem length_hexDigits_le {n : Nat} (h : IsGroup n) : (hexDigits n).length ≤ 4 :=
  (Nat.length_toDigits_le_iff (by decide) (by decide)).mpr h

/-- The digits of a group are split off before a colon or the end. -/
theorem spanGroup_hexDigits {n : Nat} (h : IsGroup n) {r : List Char}
    (hr : ∀ c ∈ r.head?, c = ':') : spanGroup (hexDigits n ++ r) = (hexDigits n, r) := by
  have hdigits : ((hexDigits n ++ r).take 4).takeWhile (fun c => (hexValue? c).isSome) =
      hexDigits n := by
    rw [List.take_append, List.take_of_length_le (length_hexDigits_le h),
      List.takeWhile_append_of_pos fun c hc => isHex_of_mem_hexDigits hc]
    have hrest : (r.take (4 - (hexDigits n).length)).takeWhile (fun c => (hexValue? c).isSome) =
        [] := by
      cases r with
      | nil => simp
      | cons c r =>
        cases hr c rfl
        cases 4 - (hexDigits n).length <;> rfl
    rw [hrest, List.append_nil]
  unfold spanGroup
  rw [hdigits]
  dsimp only
  rw [List.drop_left]

/-! ## Reading groups -/

theorem count_push (g : Groups) (n : Nat) : (g.push n).count = g.count + 1 := by
  obtain ⟨before, after⟩ := g
  cases after with
  | none => simp [Groups.push, Groups.count]
  | some a => simp [Groups.push, Groups.count]; omega

theorem pushAll_none (before ns : List Nat) :
    Groups.pushAll ⟨before, none⟩ ns = ⟨before ++ ns, none⟩ := by
  induction ns generalizing before with
  | nil => simp [Groups.pushAll]
  | cons n ns ih =>
    have h := ih (before ++ [n])
    rw [List.append_assoc] at h
    exact h

theorem pushAll_some (before after ns : List Nat) :
    Groups.pushAll ⟨before, some after⟩ ns = ⟨before, some (after ++ ns)⟩ := by
  induction ns generalizing after with
  | nil => simp [Groups.pushAll]
  | cons n ns ih =>
    have h := ih (after ++ [n])
    rw [List.append_assoc] at h
    exact h

/-- The digits of a group are read as the group, and a colon behind them goes with them; but it must
    not be the last character. -/
theorem readGroups_hexDigits (fuel : Nat) (g : Groups) {n : Nat} (hn : IsGroup n)
    (hg : g.count < 8) (r : List Char) (hr : ∀ c ∈ r.head?, c = ':') :
    readGroups (fuel + 1) g (hexDigits n ++ r) =
      match r with
      | [] => some (g.push n)
      | ':' :: [] => none
      | _ :: rest => readGroups fuel (g.push n) rest := by
  obtain ⟨c, t, hct⟩ := hexDigits_cons n
  have hspan := spanGroup_hexDigits hn hr
  have hc : c ≠ ':' := fun h => colon_not_mem_hexDigits n (by rw [hct, h]; exact List.mem_cons_self)
  rw [hct, List.cons_append] at hspan ⊢
  rw [readGroups, if_neg (by omega), hspan]
  · dsimp only
    rw [← hct, hexNumber_hexDigits]
    match r with
    | [] => rfl
    | [d] =>
      cases hr d rfl
      rfl
    | d :: e :: r =>
      cases hr d rfl
      rfl
  · exact List.cons_ne_nil _ _
  · intro s hs
    exact absurd (List.cons.inj hs).1 hc

theorem writeGroups_cons_cons (n m : Nat) (ns : List Nat) :
    writeGroups (n :: m :: ns) = hexDigits n ++ ':' :: writeGroups (m :: ns) := by
  simp [writeGroups, List.intercalate]

theorem writeGroups_singleton (n : Nat) : writeGroups [n] = hexDigits n := by
  simp [writeGroups, List.intercalate]

theorem writeGroups_ne_nil (n : Nat) (ns : List Nat) : writeGroups (n :: ns) ≠ [] := by
  obtain ⟨c, t, hct⟩ := hexDigits_cons n
  cases ns with
  | nil => rw [writeGroups_singleton, hct]; exact List.cons_ne_nil c t
  | cons m ns => rw [writeGroups_cons_cons, hct]; exact List.cons_ne_nil _ _

/-- Written groups are read one after the other; a colon after them belongs to a gap. -/
theorem readGroups_writeGroups (fuel : Nat) (g : Groups) {n : Nat} {ns : List Nat}
    (hns : ∀ m ∈ n :: ns, IsGroup m) (hg : g.count + (n :: ns).length ≤ 8) (r : List Char) :
    readGroups (fuel + (n :: ns).length) g (writeGroups (n :: ns)) =
        some (g.pushAll (n :: ns)) ∧
      (r ≠ [] → readGroups (fuel + (n :: ns).length) g (writeGroups (n :: ns) ++ ':' :: r) =
        readGroups fuel (g.pushAll (n :: ns)) r) := by
  induction ns generalizing n g with
  | nil =>
    have hn := hns n List.mem_cons_self
    have hcount : g.count < 8 := hg
    rw [writeGroups_singleton]
    constructor
    · have h := readGroups_hexDigits fuel g hn hcount [] nofun
      rw [List.append_nil] at h
      exact h
    · intro hr
      obtain ⟨c, t, rfl⟩ := List.exists_cons_of_ne_nil hr
      have h := readGroups_hexDigits fuel g hn hcount (':' :: c :: t) (by simp)
      exact h
  | cons m ns ih =>
    have hn := hns n List.mem_cons_self
    rw [List.length_cons] at hg
    have hpush : (g.push n).count + (m :: ns).length ≤ 8 := by
      rw [count_push]
      omega
    obtain ⟨hlast, hgap⟩ := ih (g.push n) (fun k hk => hns k (List.mem_cons_of_mem n hk)) hpush
    have hstep : ∀ t, t ≠ [] → readGroups (fuel + (n :: m :: ns).length) g
        (hexDigits n ++ ':' :: t) = readGroups (fuel + (m :: ns).length) (g.push n) t := by
      intro t ht
      obtain ⟨c, t, rfl⟩ := List.exists_cons_of_ne_nil ht
      exact readGroups_hexDigits _ g hn (by omega) (':' :: c :: t) (by simp)
    have hne := writeGroups_ne_nil m ns
    rw [writeGroups_cons_cons]
    refine ⟨(hstep _ hne).trans hlast, fun hr => ?_⟩
    rw [List.append_assoc, List.cons_append]
    exact (hstep _ (by simp [hne])).trans (hgap hr)

/-! ## IPv6 -/

/-- The run of zeros is in the groups. -/
def IsRun (groups : List Nat) (run : Nat × Nat) : Prop :=
  (groups.drop run.1).take run.2 = List.replicate run.2 0

theorem take_zeros (l : List Nat) :
    l.take (l.takeWhile (· == 0)).length = List.replicate (l.takeWhile (· == 0)).length 0 := by
  induction l with
  | nil => rfl
  | cons n l ih =>
    cases n with
    | zero =>
      rw [List.takeWhile_cons_of_pos rfl, List.length_cons, List.take_succ_cons, ih]
      rfl
    | succ n => rw [List.takeWhile_cons_of_neg (by simp)]; rfl

theorem isRun_go (pre : List Nat) {r : List Nat} (best : Nat × Nat) (hbest : IsRun (pre ++ r) best) :
    IsRun (pre ++ r) (longestZeros.go pre.length r best) := by
  induction r generalizing pre best with
  | nil => exact hbest
  | cons n r ih =>
    have hrun : IsRun (pre ++ n :: r)
        (pre.length, ((n :: r).takeWhile (· == 0)).length) := by
      unfold IsRun
      dsimp only
      rw [List.drop_left]
      exact take_zeros (n :: r)
    rw [longestZeros.go]
    have hnext := ih (pre ++ [n]) (if best.2 < ((n :: r).takeWhile (· == 0)).length
      then (pre.length, ((n :: r).takeWhile (· == 0)).length) else best)
    rw [List.append_assoc, List.singleton_append, List.length_append] at hnext
    refine hnext ?_
    split
    · exact hrun
    · exact hbest

theorem isRun_longestZeros (groups : List Nat) : IsRun groups (longestZeros groups) :=
  isRun_go [] (0, 0) rfl

/-- The groups of an address. -/
structure Ipv6.Full (a : Ipv6) : Prop where
  length : a.groups.length = 8
  groups : ∀ n ∈ a.groups, IsGroup n

/-- A text that starts with groups is read from its start. -/
theorem ofText?_writeGroups (n : Nat) (ns : List Nat) (r : List Char) :
    Ipv6.ofText? (writeGroups (n :: ns) ++ r) =
      (readGroups 9 ⟨[], none⟩ (writeGroups (n :: ns) ++ r)).bind Groups.address? := by
  have hstart : ∃ c t, writeGroups (n :: ns) = c :: t ∧ c ≠ ':' := by
    obtain ⟨c, t, hct⟩ := hexDigits_cons n
    have hc : c ≠ ':' := fun h =>
      colon_not_mem_hexDigits n (by rw [hct, h]; exact List.mem_cons_self)
    cases ns with
    | nil => exact ⟨c, t, by rw [writeGroups_singleton, hct], hc⟩
    | cons m ns =>
      exact ⟨c, t ++ ':' :: writeGroups (m :: ns), by rw [writeGroups_cons_cons, hct]; rfl, hc⟩
  obtain ⟨c, t, hct, hc⟩ := hstart
  rw [hct, List.cons_append]
  unfold Ipv6.ofText?
  split
  · next heq => exact absurd (List.cons.inj heq).1 hc
  · next heq => exact absurd (List.cons.inj heq).1 hc
  · next heq => cases heq
  · rfl

/-- The groups behind a gap are read. -/
theorem readGroups_after (fuel : Nat) {before after : List Nat} (hafter : ∀ n ∈ after, IsGroup n)
    (hcount : before.length + after.length ≤ 8) :
    readGroups (fuel + after.length) ⟨before, some []⟩ (writeGroups after) =
      some ⟨before, some after⟩ := by
  cases after with
  | nil => cases fuel <;> rfl
  | cons n ns =>
    have hread := (readGroups_writeGroups fuel ⟨before, some []⟩ hafter hcount []).1
    rw [hread, pushAll_some, List.nil_append]

/-- An address without a gap is read as it is written. -/
theorem ofText?_full {groups : List Nat} (hlength : groups.length = 8)
    (hgroups : ∀ n ∈ groups, IsGroup n) : Ipv6.ofText? (writeGroups groups) = some ⟨groups⟩ := by
  obtain ⟨n, ns, rfl⟩ := List.exists_cons_of_length_eq_add_one hlength
  have hread := (readGroups_writeGroups 1 ⟨[], none⟩ hgroups (by rw [hlength]; decide) []).1
  rw [hlength, pushAll_none, List.nil_append] at hread
  have hstart := ofText?_writeGroups n ns []
  rw [List.append_nil, hread] at hstart
  rw [hstart, Option.bind_some]
  exact if_pos hlength

/-- An address with a gap is read with zeros in it. -/
theorem ofText?_gap {before after : List Nat} (hbefore : ∀ n ∈ before, IsGroup n)
    (hafter : ∀ n ∈ after, IsGroup n) (hcount : before.length + after.length < 8) :
    Ipv6.ofText? (writeGroups before ++ ':' :: ':' :: writeGroups after) =
      some ⟨before ++ List.replicate (8 - (before.length + after.length)) 0 ++ after⟩ := by
  have hread (fuel : Nat) := readGroups_after fuel hafter (Nat.le_of_lt hcount)
  have haddress : Groups.address? ⟨before, some after⟩ =
      some ⟨before ++ List.replicate (8 - (before.length + after.length)) 0 ++ after⟩ :=
    if_pos hcount
  cases before with
  | nil =>
    have h := hread (8 - after.length)
    rw [Nat.sub_add_cancel (by simpa using Nat.le_of_lt hcount)] at h
    have hstart : Ipv6.ofText? (':' :: ':' :: writeGroups after) =
        (readGroups 8 ⟨[], some []⟩ (writeGroups after)).bind Groups.address? := rfl
    rw [show writeGroups [] = [] from rfl, List.nil_append, hstart, h, Option.bind_some, haddress]
  | cons n ns =>
    obtain ⟨k, hk⟩ := Nat.exists_eq_add_of_lt hcount
    have hgroups := (readGroups_writeGroups (k + 1 + after.length + 1) ⟨[], none⟩ hbefore
      (by simp only [Groups.count, List.length_nil, Option.getD_none]; omega)
      (':' :: writeGroups after)).2 (List.cons_ne_nil _ _)
    have hgap : readGroups (k + 1 + after.length + 1) ⟨n :: ns, none⟩ (':' :: writeGroups after) =
        readGroups (k + 1 + after.length) ⟨n :: ns, some []⟩ (writeGroups after) := by
      have hroom : (n :: ns).length + 0 < 8 := by omega
      rw [readGroups, if_pos ⟨hroom, rfl⟩]
    rw [show k + 1 + after.length + 1 + (n :: ns).length = 9 by omega, pushAll_none, List.nil_append,
      hgap, hread] at hgroups
    rw [ofText?_writeGroups, hgroups, Option.bind_some, haddress]

/-- An address is read as it is written. -/
theorem ipv6_ofText?_text {a : Ipv6} (h : a.Full) : Ipv6.ofText? a.text = some a := by
  obtain ⟨groups⟩ := a
  obtain ⟨hlength, hgroups⟩ := h
  have hrun := isRun_longestZeros groups
  unfold Ipv6.text
  dsimp only at *
  generalize longestZeros groups = best at hrun
  obtain ⟨start, run⟩ := best
  dsimp only
  split
  · exact ofText?_full hlength hgroups
  · next hlong =>
    have hlengths := congrArg List.length hrun
    simp only [List.length_take, List.length_drop, List.length_replicate, hlength] at hlengths
    have hbefore : (groups.take start).length = start := by
      rw [List.length_take]
      omega
    have hafter : (groups.drop (start + run)).length = 8 - (start + run) := by
      rw [List.length_drop, hlength]
    have hjoin : groups.take start ++ List.replicate run 0 ++ groups.drop (start + run) =
        groups := by
      rw [← hrun, List.append_assoc, ← List.drop_drop]
      dsimp only
      rw [List.take_append_drop, List.take_append_drop]
    have hread := ofText?_gap (fun n hn => hgroups n (List.mem_of_mem_take hn))
      (fun n hn => hgroups n (List.mem_of_mem_drop (i := start + run) hn))
      (by rw [hbefore, hafter]; omega)
    rw [hread, hbefore, hafter, show 8 - (start + (8 - (start + run))) = run by omega, hjoin]

/-! ### What is read -/

theorem hexValue?_lt {c : Char} {d : Nat} (h : hexValue? c = some d) : d < 16 := by
  unfold hexValue? at h
  split at h
  · next hc =>
    cases h
    exact Nat.lt_of_le_of_lt (Nat.sub_le_sub_right (toNat_le_toNat hc.2) _) (by decide)
  split at h
  · next hc =>
    cases h
    have hlast := Nat.sub_le_sub_right (toNat_le_toNat hc.2) 'a'.toNat
    exact Nat.lt_of_le_of_lt (Nat.add_le_add_right hlast 10) (by decide)
  split at h
  · next hc =>
    cases h
    have hlast := Nat.sub_le_sub_right (toNat_le_toNat hc.2) 'A'.toNat
    exact Nat.lt_of_le_of_lt (Nat.add_le_add_right hlast 10) (by decide)
  · cases h

theorem foldl_hex_lt (s : List Char) (n : Nat) :
    s.foldl (fun n c => 16 * n + (hexValue? c).getD 0) n < (n + 1) * Nat.pow 16 s.length := by
  induction s generalizing n with
  | nil => simp
  | cons c s ih =>
    have hdigit : (hexValue? c).getD 0 < 16 := by
      cases h : hexValue? c with
      | none => decide
      | some d => exact hexValue?_lt h
    have hpow : Nat.pow 16 (s.length + 1) = 16 * Nat.pow 16 s.length := Nat.pow_succ'
    rw [List.foldl_cons, List.length_cons, hpow, ← Nat.mul_assoc]
    refine Nat.lt_of_lt_of_le (ih _) (Nat.mul_le_mul_right _ ?_)
    omega

theorem hexNumber_lt (s : List Char) : hexNumber s < Nat.pow 16 s.length := by
  have h := foldl_hex_lt s 0
  rwa [Nat.zero_add, Nat.one_mul] at h

theorem isGroup_spanGroup (s : List Char) : IsGroup (hexNumber (spanGroup s).1) := by
  have hlength : (spanGroup s).1.length ≤ 4 :=
    Nat.le_trans (List.takeWhile_sublist _).length_le (List.length_take_le 4 s)
  exact Nat.lt_of_lt_of_le (hexNumber_lt _) (Nat.pow_le_pow_right (by decide) hlength)

theorem byte?_le {s : List Char} {n : Nat} (h : byte? s = some n) : n ≤ 255 := by
  unfold byte? at h
  split at h
  · cases h
    decide
  · cases h
  · cases h
  · split at h
    · split at h
      · split at h
        · cases h
          assumption
        · cases h
      · cases h
    · cases h

theorem isGroup_pointed? {s : List Char} {a b : Nat} (h : pointed? s = some (a, b)) :
    IsGroup a ∧ IsGroup b := by
  unfold pointed? at h
  split at h
  · obtain ⟨p, hp, h⟩ := Option.bind_eq_some_iff.mp h
    obtain ⟨q, hq, h⟩ := Option.bind_eq_some_iff.mp h
    obtain ⟨r, hr, h⟩ := Option.bind_eq_some_iff.mp h
    obtain ⟨t, ht, h⟩ := Option.bind_eq_some_iff.mp h
    cases h
    have := byte?_le hp
    have := byte?_le hq
    have := byte?_le hr
    have := byte?_le ht
    unfold IsGroup
    omega
  · cases h

/-- All groups that have been read are numbers of 16 bits. -/
def Groups.Small (g : Groups) : Prop := ∀ n ∈ g.before ++ g.after.getD [], IsGroup n

theorem Groups.Small.push {g : Groups} (h : g.Small) {n : Nat} (hn : IsGroup n) :
    (g.push n).Small := by
  obtain ⟨before, after⟩ := g
  unfold Small at *
  cases after with
  | none =>
    simp only [Groups.push, Option.getD_none, List.append_nil, List.mem_append,
      List.mem_singleton] at *
    rintro m (hm | rfl)
    · exact h m hm
    · exact hn
  | some a =>
    simp only [Groups.push, Option.getD_some, List.mem_append, List.mem_singleton] at *
    rintro m (hm | hm | rfl)
    · exact h m (.inl hm)
    · exact h m (.inr hm)
    · exact hn

theorem small_readGroups {fuel : Nat} {g g' : Groups} {s : List Char} (hg : g.Small)
    (h : readGroups fuel g s = some g') : g'.Small := by
  induction fuel generalizing g s with
  | zero =>
    cases s with
    | nil =>
      cases h
      exact hg
    | cons c s => cases h
  | succ fuel ih =>
    cases s with
    | nil =>
      cases h
      exact hg
    | cons c s =>
      by_cases hc : c = ':'
      · rw [hc, readGroups] at h
        split at h
        · refine ih (fun n hn => hg n ?_) h
          simp only [Option.getD_some, List.append_nil] at hn
          exact List.mem_append_left _ hn
        · cases h
      · have hgroup := hg.push (isGroup_spanGroup (c :: s))
        rw [readGroups] at h
        · split at h
          · cases h
          dsimp only at h
          split at h
          · cases h
            exact hgroup
          · split at h
            · cases h
            · obtain ⟨⟨a, b⟩, hpointed, h⟩ := Option.bind_eq_some_iff.mp h
              obtain ⟨ha, hb⟩ := isGroup_pointed? hpointed
              cases h
              exact (hg.push ha).push hb
          · cases h
          · exact ih hgroup h
          · cases h
        · exact List.cons_ne_nil c s
        · exact fun t ht => hc (List.cons.inj ht).1

theorem full_of_address? {g : Groups} {a : Ipv6} (hsmall : g.Small) (h : g.address? = some a) :
    a.Full := by
  unfold Groups.address? at h
  split at h
  · split at h
    · next hlength =>
      cases h
      exact ⟨hlength, fun n hn => hsmall n (List.mem_append_left _ hn)⟩
    · cases h
  · next after hafter =>
    split at h
    · next hcount =>
      cases h
      have hsum : g.before.length + after.length < 8 := by
        rw [Groups.count, hafter] at hcount
        exact hcount
      refine ⟨?_, fun n hn => ?_⟩
      · simp only [List.length_append, List.length_replicate, Groups.count, hafter,
          Option.getD_some]
        omega
      · simp only [List.mem_append, List.mem_replicate] at hn
        rcases hn with (hn | ⟨-, rfl⟩) | hn
        · exact hsmall n (List.mem_append_left _ hn)
        · unfold IsGroup
          decide
        · exact hsmall n (List.mem_append_right _ (by rw [hafter]; exact hn))
    · cases h

/-- The groups of an address that has been read fill it. -/
theorem full_of_ofText? {s : List Char} {a : Ipv6} (h : Ipv6.ofText? s = some a) : a.Full := by
  unfold Ipv6.ofText? at h
  dsimp only at h
  split at h
  · obtain ⟨g, hg, h⟩ := Option.bind_eq_some_iff.mp h
    exact full_of_address? (small_readGroups (by simp [Groups.Small]) hg) h
  · cases h
  · cases h
  · obtain ⟨g, hg, h⟩ := Option.bind_eq_some_iff.mp h
    exact full_of_address? (small_readGroups (by simp [Groups.Small]) hg) h

end Switchboard.Url
