import Switchboard.Proofs.Idna.Names
import Switchboard.Proofs.Url.Addresses
import Switchboard.Proofs.Url.Encoding
import Switchboard.Proofs.Url.Hosts
/-
  Authorities are read as they are written. What has been read is in normal form, a property of each
  of its parts: the host (`Host.Normal`), the user (`NormalUser`) and the port. The text of a part in
  normal form has none of the marks that split the text of an authority (`inServer`), so that the
  parts are found again, and each is read as itself (`text_of_readHost`, `userText_again`,
  `readPort_digitsOf`). Together this is `readAuthority_again`; a host that is a name may be refused
  when it is read again, and nothing is claimed of such a host.
-/
namespace Switchboard.Url

open Switchboard.Decimal (digitsOf)
open Switchboard.Idna (InName)
open Switchboard.Json (bind_eq_ok)
open Switchboard.Text

/-! ## Characters -/

/-- Whether a character may stand in an authority, apart from the `@` after the user. -/
def inServer (c : Char) : Bool := 0x20 < c.toNat && !(['@', '/', '\\', '?', '#'].contains c)

theorem ne_of_inServer {c : Char} (h : inServer c = true) :
    c ≠ '@' ∧ c ≠ '/' ∧ c ≠ '\\' ∧ c ≠ '?' ∧ c ≠ '#' := by
  refine ⟨?_, ?_, ?_, ?_, ?_⟩ <;>
  · rintro rfl
    cases h

theorem large_of_inServer {c : Char} (h : inServer c = true) : 0x20 < c.toNat := by
  unfold inServer at h
  exact of_decide_eq_true (Bool.and_eq_true_iff.mp h).1

theorem not_endsAuthority_of_inServer (k : SchemeKind) {c : Char} (h : inServer c = true) :
    endsAuthority k c = false := by
  obtain ⟨-, hslash, hback, hquery, hfragment⟩ := ne_of_inServer h
  simp [endsAuthority, isSlash, hslash, hback, hquery, hfragment]

/-- What holds of a set in ASCII holds of the set, since all marks are ASCII. -/
theorem inServer_of_ascii (set : Char → Bool)
    (hall : ∀ n < 0x80, set (Char.ofNat n) = true → inServer (Char.ofNat n) = true) {c : Char}
    (h : set c = true) : inServer c = true := by
  by_cases hascii : c.toNat < 0x80
  · exact forall_ascii (p := fun c => set c = true → inServer c = true) hall hascii h
  · have hlarge : decide (0x20 < c.toNat) = true := decide_eq_true (by omega)
    have hmark : ['@', '/', '\\', '?', '#'].contains c = false := by
      refine eq_false_of_ne_true fun hmem => hascii ?_
      have hmarks : ['@', '/', '\\', '?', '#'].all (·.toNat < 0x80) = true := by decide
      exact of_decide_eq_true (List.all_eq_true.mp hmarks c (List.contains_iff_mem.mp hmem))
    unfold inServer
    rw [hlarge, hmark]
    rfl

/-- What is neither a control nor forbidden in hosts may stand in an authority. -/
theorem inServer_of_clean {c : Char} (hforbidden : isForbiddenInHost c = false)
    (hcontrol : isControl c = false) : inServer c = true := by
  refine inServer_of_ascii (fun c => !isForbiddenInHost c && !isControl c) (by decide) ?_
  rw [hforbidden, hcontrol]
  rfl

theorem inServer_of_inUserInfo {c : Char} (h : inUserInfo c = false) : inServer c = true := by
  refine inServer_of_ascii (fun c => !inUserInfo c) (by decide) ?_
  rw [h]
  rfl

theorem inServer_of_isHex {c : Char} (h : (hexValue? c).isSome = true) : inServer c = true :=
  inServer_of_ascii (fun c => (hexValue? c).isSome) (by decide) h

theorem inServer_of_isDigit {c : Char} (h : c.isDigit = true) : inServer c = true :=
  inServer_of_ascii Char.isDigit (by decide) h

/-- The characters of names are neither controls nor forbidden in hosts. -/
theorem clean_of_inName {c : Char} (h : InName c) :
    isForbiddenInHost c = false ∧ isControl c = false :=
  forall_ascii (p := fun c => Idna.isForbidden c = false →
    isForbiddenInHost c = false ∧ isControl c = false) (by decide) h.ascii h.allowed

/-! ## Hosts -/

/-- A host in the normal form of a kind of schemes. -/
inductive Host.Normal (k : SchemeKind) : Host → Prop
  | name {s : String} (hclean : ∀ c ∈ s.toList, isForbiddenInHost c = false ∧ isControl c = false)
      (hspecial : k.isSpecial = true →
        (∀ c ∈ s.toList, InName c) ∧ endsInNumber s.toList = false) : Host.Normal k (.name s)
  | ipv4 (a : Ipv4) (hspecial : k.isSpecial = true) : Host.Normal k (.ipv4 a)
  | ipv6 {a : Ipv6} (hfull : a.Full) : Host.Normal k (.ipv6 a)

theorem normal_of_bracketed (k : SchemeKind) {s : List Char} {h : Host}
    (hread : bracketed s = .ok h) : h.Normal k := by
  unfold bracketed at hread
  split at hread
  · split at hread
    · next a ha =>
      cases hread
      exact .ipv6 (full_of_ofText? ha)
    · cases hread
  · cases hread

theorem normal_of_ofSpecial {k : SchemeKind} (hk : k.isSpecial = true) {s : List Char} {h : Host}
    (hread : Host.ofSpecial s = .ok h) : h.Normal k := by
  unfold Host.ofSpecial at hread
  split at hread
  · exact normal_of_bracketed k hread
  · split at hread
    · cases hread
    · cases hread
    · next domain _ hdomain =>
      split at hread
      · split at hread
        · next a _ =>
          cases hread
          exact .ipv4 a hk
        · cases hread
      · next hnumber =>
        cases hread
        obtain ⟨t, -, ht⟩ := Option.bind_eq_some_iff.mp hdomain
        have hname := Idna.inName_of_domainToAscii? ht
        refine .name (fun c hc => ?_) fun _ => ?_
        · rw [String.toList_ofList] at hc
          exact clean_of_inName (hname c hc)
        · rw [String.toList_ofList]
          exact ⟨hname, eq_false_of_ne_true hnumber⟩

theorem normal_of_ofOther {k : SchemeKind} (hk : k.isSpecial = false) {s : List Char} {h : Host}
    (hread : Host.ofOther s = .ok h) : h.Normal k := by
  unfold Host.ofOther at hread
  split at hread
  · exact normal_of_bracketed k hread
  · split at hread
    · cases hread
    · next hforbidden =>
      cases hread
      refine .name (fun c hc => ?_) fun hspecial => absurd hspecial (by rw [hk]; nofun)
      rw [String.toList_ofList] at hc
      refine ⟨?_, percentEncode_clean isControl_clean s c hc⟩
      rcases mem_percentEncode hc with hc | ⟨hc, -⟩
      · have hall : ∀ d ∈ encodedChars, isForbiddenInHost d = false :=
          clean_of_any (by decide)
        exact hall c hc
      · exact eq_false_of_ne_true fun h => hforbidden (List.any_eq_true.mpr ⟨c, hc, h⟩)

/-- Every host that is read is in normal form. -/
theorem normal_of_readHost {k : SchemeKind} {s : List Char} {h : Host}
    (hread : readHost k s = .ok h) : h.Normal k := by
  unfold readHost at hread
  split at hread
  · next hk =>
    split at hread
    · cases hread
    · exact normal_of_ofSpecial hk hread
  · next hk => exact normal_of_ofOther (eq_false_of_ne_true hk) hread

theorem ipv4_chars {a : Ipv4} {c : Char} (h : c ∈ a.text) : c.isDigit = true ∨ c = '.' := by
  rcases mem_intercalate h with rfl | ⟨p, hp, hc⟩
  · exact .inr rfl
  · simp only [List.mem_cons, List.not_mem_nil, or_false] at hp
    rcases hp with rfl | rfl | rfl | rfl <;> exact .inl (Decimal.isDigit_of_mem_digitsOf hc)

theorem writeGroups_chars {groups : List Nat} {c : Char} (h : c ∈ writeGroups groups) :
    (hexValue? c).isSome = true ∨ c = ':' := by
  rcases mem_intercalate h with rfl | ⟨p, hp, hc⟩
  · exact .inr rfl
  · obtain ⟨n, -, rfl⟩ := List.mem_map.mp hp
    exact .inl (isHex_of_mem_hexDigits hc)

theorem ipv6_chars {a : Ipv6} {c : Char} (h : c ∈ a.text) :
    (hexValue? c).isSome = true ∨ c = ':' := by
  unfold Ipv6.text at h
  dsimp only at h
  split at h
  · exact writeGroups_chars h
  · rcases List.mem_append.mp h with h | h
    · exact writeGroups_chars h
    · rcases List.mem_cons.mp h with rfl | h
      · exact .inr rfl
      · rcases List.mem_cons.mp h with rfl | h
        · exact .inr rfl
        · exact writeGroups_chars h

/-- The text of a host in normal form has no marks. -/
theorem Host.Normal.inServer {k : SchemeKind} {h : Host} (hnormal : h.Normal k) :
    ∀ c ∈ h.text.toList, inServer c = true := by
  cases hnormal with
  | name hclean _ => exact fun c hc => inServer_of_clean (hclean c hc).1 (hclean c hc).2
  | ipv4 a _ =>
    intro c hc
    rw [Host.text, String.toList_ofList] at hc
    rcases ipv4_chars hc with hc | rfl
    · exact inServer_of_isDigit hc
    · rfl
  | ipv6 _ =>
    intro c hc
    rw [Host.text, String.toList_ofList, List.mem_append, List.mem_cons, List.mem_singleton] at hc
    rcases hc with (rfl | hc) | rfl
    · rfl
    · rcases ipv6_chars hc with hc | rfl
      · exact inServer_of_isHex hc
      · rfl
    · rfl

/-! ## Hosts, read again -/

theorem ofSpecial_bracket (r : List Char) : Host.ofSpecial ('[' :: r) = bracketed r := rfl

theorem ofOther_bracket (r : List Char) : Host.ofOther ('[' :: r) = bracketed r := rfl

theorem bracketed_text {a : Ipv6} (h : a.Full) : bracketed (a.text ++ [']']) = .ok (.ipv6 a) := by
  unfold bracketed
  rw [if_pos List.getLast?_concat, List.dropLast_concat, ipv6_ofText?_text h]

/-- A name in ASCII is read as itself, or as an address if it ends in a number. -/
theorem eq_of_ofSpecial_name {s : List Char} (hname : ∀ c ∈ s, InName c) {h : Host}
    (hread : Host.ofSpecial s = .ok h) :
    h = .name (String.ofList s) ∨
      endsInNumber s = true ∧ ∃ a, h = .ipv4 a ∧ Ipv4.ofText? s = some a := by
  have hbracket : ∀ r, s ≠ '[' :: r := by
    rintro r rfl
    cases (hname '[' List.mem_cons_self).allowed
  have hpercent : '%' ∉ s := fun hmem => by
    cases (hname '%' hmem).allowed
  unfold Host.ofSpecial at hread
  split at hread
  · next r => exact absurd rfl (hbracket r)
  · rw [utf8?_percentDecode hpercent, Option.bind_some] at hread
    split at hread
    · cases hread
    · cases hread
    · next domain _ hdomain =>
      have hsame := Idna.domainToAscii?_again (fun c hc => (hname c hc).ascii)
        (fun c hc => (hname c hc).lower) hdomain
      subst hsame
      split at hread
      · next hnumber =>
        split at hread
        · next a ha =>
          cases hread
          exact .inr ⟨hnumber, a, rfl, ha⟩
        · cases hread
      · cases hread
        exact .inl rfl

theorem inName_of_ipv4_chars {a : Ipv4} : ∀ c ∈ a.text, InName c := by
  intro c hc
  rcases ipv4_chars hc with hdigit | rfl
  · exact forall_ascii (p := fun c => c.isDigit = true → InName c) (by decide)
      (lt_of_isDigit hdigit) hdigit
  · decide

theorem text_of_ofSpecial {k : SchemeKind} (hk : k.isSpecial = true) {h h' : Host}
    (hnormal : h.Normal k) (hread : Host.ofSpecial h.text.toList = .ok h') : h'.text = h.text := by
  cases hnormal with
  | name _ hspecial =>
    obtain ⟨hname, hnumber⟩ := hspecial hk
    rcases eq_of_ofSpecial_name hname hread with rfl | ⟨hends, -⟩
    · exact String.ofList_toList
    · cases hnumber.symm.trans hends
  | ipv4 a _ =>
    rw [Host.text, String.toList_ofList] at hread
    rcases eq_of_ofSpecial_name inName_of_ipv4_chars hread with rfl | ⟨-, b, rfl, hb⟩
    · rfl
    · rw [Host.text, Host.text, ipv4_text_of_ofText? hb]
  | ipv6 hfull =>
    rw [Host.text, String.toList_ofList, List.cons_append, ofSpecial_bracket,
      bracketed_text hfull] at hread
    cases hread
    rfl

theorem text_of_ofOther {k : SchemeKind} (hk : k.isSpecial = false) {h h' : Host}
    (hnormal : h.Normal k) (hread : Host.ofOther h.text.toList = .ok h') : h'.text = h.text := by
  cases hnormal with
  | name hclean _ =>
    rw [Host.text] at hread
    unfold Host.ofOther at hread
    split at hread
    · next r heq =>
      have := (hclean '[' (heq ▸ List.mem_cons_self)).1
      cases this
    · split at hread
      · cases hread
      · cases hread
        rw [Host.text, percentEncode_of_clean fun c hc => (hclean c hc).2, String.ofList_toList,
          Host.text]
  | ipv4 a hspecial =>
    rw [hk] at hspecial
    cases hspecial
  | ipv6 hfull =>
    rw [Host.text, String.toList_ofList, List.cons_append, ofOther_bracket,
      bracketed_text hfull] at hread
    cases hread
    rfl

/-- The text of a host in normal form is read as a host with this text. -/
theorem text_of_readHost {k : SchemeKind} {h h' : Host} (hnormal : h.Normal k)
    (hread : readHost k h.text.toList = .ok h') : h'.text = h.text := by
  unfold readHost at hread
  split at hread
  · next hk =>
    split at hread
    · cases hread
    · exact text_of_ofSpecial hk hnormal hread
  · next hk => exact text_of_ofOther (eq_false_of_ne_true hk) hnormal hread

end Switchboard.Url
