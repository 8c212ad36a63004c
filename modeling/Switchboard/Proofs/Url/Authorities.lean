import Switchboard.Proofs.Url.Servers
/-
  Authorities are read as they are written. What has been read is in normal form, part by part
  (`NormalAuthority`). The parts of its text are found again, since none of them has a mark that
  splits the text, and each is read as itself (`readAuthority_again`).
-/
namespace Switchboard.Url

open Switchboard.Decimal (digitsOf)
open Switchboard.Json (bind_eq_ok)
open Switchboard.Text

/-! ## Users -/

/-- A user name and password in normal form: encoded, and with a colon only in front of a password
    that is not empty. -/
def NormalUser (user : String) : Prop :=
  ∃ name : List Char, (∀ c ∈ name, inUserInfo c = false) ∧
    (user.toList = name ∨ ∃ password, password ≠ [] ∧ (∀ c ∈ password, inUserInfo c = false) ∧
      user.toList = name ++ ':' :: password)

theorem encode_clean (s : List Char) : ∀ c ∈ percentEncode inUserInfo s, inUserInfo c = false :=
  percentEncode_clean inUserInfo_clean s

theorem encodeChar_ne_nil (c : Char) : encodeChar c ≠ [] := by
  obtain ⟨b, bs, hbytes⟩ := List.exists_cons_of_ne_nil (String.utf8EncodeChar_ne_nil (c := c))
  unfold encodeChar
  rw [hbytes, List.flatMap_cons]
  exact List.cons_ne_nil _ _

theorem percentEncode_ne_nil {set : Char → Bool} {s : List Char} (h : s ≠ []) :
    percentEncode set s ≠ [] := by
  cases s with
  | nil => exact absurd rfl h
  | cons c s =>
    unfold percentEncode
    rw [List.flatMap_cons]
    refine List.append_ne_nil_of_left_ne_nil ?_ _
    split
    · exact encodeChar_ne_nil c
    · exact List.cons_ne_nil _ _

theorem normalUser_empty : NormalUser "" := ⟨[], nofun, .inl rfl⟩

theorem normalUser_userText (s : List Char) : NormalUser (userText s) := by
  unfold userText
  dsimp only
  split
  · next name _ => exact ⟨_, encode_clean name, .inl (String.toList_ofList)⟩
  · next name _ => exact ⟨_, encode_clean name, .inl (String.toList_ofList)⟩
  · next name password hne _ =>
    refine ⟨_, encode_clean name, .inr ⟨_, percentEncode_ne_nil (s := password) ?_,
      encode_clean password, String.toList_ofList⟩⟩
    rintro rfl
    exact hne rfl

/-- A user in normal form is brought into normal form as it is. -/
theorem userText_again {user : String} (h : NormalUser user) : userText user.toList = user := by
  obtain ⟨name, hname, h⟩ := h
  have hcolon : ':' ∉ name := fun hmem => by
    cases hname ':' hmem
  unfold userText
  dsimp only
  rcases h with h | ⟨password, hne, hpassword, h⟩
  · rw [h, cut_of_not_mem hcolon]
    dsimp only
    rw [percentEncode_of_clean hname, ← h, String.ofList_toList]
  · obtain ⟨c, r, rfl⟩ := List.exists_cons_of_ne_nil hne
    rw [h, cut_append hcolon]
    dsimp only
    rw [percentEncode_of_clean hname, percentEncode_of_clean hpassword, ← h, String.ofList_toList]

theorem inServer_of_normalUser {user : String} (h : NormalUser user) :
    ∀ c ∈ user.toList, inServer c = true := by
  obtain ⟨name, hname, h⟩ := h
  rcases h with h | ⟨password, -, hpassword, h⟩
  · rw [h]
    exact fun c hc => inServer_of_inUserInfo (hname c hc)
  · rw [h]
    intro c hc
    rcases List.mem_append.mp hc with hc | hc
    · exact inServer_of_inUserInfo (hname c hc)
    · rcases List.mem_cons.mp hc with rfl | hc
      · rfl
      · exact inServer_of_inUserInfo (hpassword c hc)

/-! ## Ports -/

/-- The text of a port, with the colon before it. -/
def portText (port : Option Nat) : List Char :=
  match port with
  | none => []
  | some p => ':' :: digitsOf p

/-- A port in the normal form of a scheme. -/
def NormalPort (scheme : String) (port : Option Nat) : Prop :=
  ∀ p, port = some p → p ≤ 65535 ∧ defaultPort? scheme ≠ some p

theorem le_of_readPort (n? : Option Nat) {port : Option Nat} {s left : List Char}
    (hn : ∀ n, n? = some n → n ≤ 65535) (h : readPort n? s = .ok (port, left)) :
    ∀ n, port = some n → n ≤ 65535 := by
  induction s generalizing n? with
  | nil =>
    cases h
    exact hn
  | cons c s ih =>
    unfold readPort at h
    split at h
    · dsimp only at h
      split at h
      · cases h
      · next hle =>
        refine ih _ (fun n hn => ?_) h
        cases hn
        exact Nat.not_lt.mp hle
    · split at h
      · cases h
        exact hn
      · cases h

theorem normalPort_ownPort? {scheme : String} {port : Option Nat}
    (h : ∀ n, port = some n → n ≤ 65535) : NormalPort scheme (ownPort? scheme port) := by
  intro p hp
  unfold ownPort? at hp
  split at hp
  · cases hp
  · next hne => exact ⟨h p hp, fun heq => hne (hp.trans heq.symm)⟩

theorem le_foldl_digits (ds : List Char) (n : Nat) :
    n ≤ ds.foldl (fun n c => 10 * n + (c.toNat - '0'.toNat)) n := by
  induction ds generalizing n with
  | nil => exact Nat.le_refl n
  | cons c ds ih =>
    have hle : n ≤ 10 * n + (c.toNat - '0'.toNat) := by omega
    exact Nat.le_trans hle (ih _)

/-- Digits are read as the number that they write, if this can be a port. -/
theorem readPort_digits {ds : List Char} (hds : ∀ c ∈ ds, c.isDigit = true) (n? : Option Nat)
    (hsmall : ds.foldl (fun n c => 10 * n + (c.toNat - '0'.toNat)) (n?.getD 0) ≤ 65535)
    (hne : ds ≠ []) : readPort n? ds =
      .ok (some (ds.foldl (fun n c => 10 * n + (c.toNat - '0'.toNat)) (n?.getD 0)), []) := by
  induction ds generalizing n? with
  | nil => exact absurd rfl hne
  | cons c ds ih =>
    rw [List.foldl_cons] at hsmall ⊢
    have hle := Nat.le_trans (le_foldl_digits ds _) hsmall
    unfold readPort
    rw [if_pos (hds c List.mem_cons_self)]
    dsimp only
    rw [if_neg (Nat.not_lt.mpr hle)]
    cases ds with
    | nil => rfl
    | cons d ds =>
      exact ih (fun e he => hds e (List.mem_cons_of_mem c he)) (some _) hsmall
        (List.cons_ne_nil d ds)

theorem readPort_digitsOf {p : Nat} (h : p ≤ 65535) :
    readPort none (digitsOf p) = .ok (some p, []) := by
  have hvalue := Decimal.numberOf_digitsOf p
  unfold Decimal.numberOf at hvalue
  have hread := readPort_digits (fun c hc => Decimal.isDigit_of_mem_digitsOf hc) none
    (by rw [Option.getD_none, hvalue]; exact h) (Decimal.digitsOf_ne_nil p)
  rwa [Option.getD_none, hvalue] at hread

theorem inServer_of_mem_portText {port : Option Nat} : ∀ c ∈ portText port, inServer c = true := by
  cases port with
  | none => nofun
  | some p =>
    refine List.forall_mem_cons.mpr ⟨rfl, fun c hc => ?_⟩
    exact inServer_of_isDigit (Decimal.isDigit_of_mem_digitsOf hc)

/-! ## Finding the parts -/

theorem spanHost_name {s r : List Char} (hs : ∀ c ∈ s, c ≠ ':' ∧ c ≠ '[')
    (hr : ∀ c ∈ r.head?, c = ':') : spanHost false (s ++ r) = (s, r) := by
  induction s with
  | nil =>
    cases r with
    | nil => rfl
    | cons c r =>
      cases hr c rfl
      rfl
  | cons c s ih =>
    obtain ⟨hcolon, hopen⟩ := hs c List.mem_cons_self
    rw [List.cons_append, spanHost]
    rw [if_neg fun h => hcolon h.1, if_neg hopen, ite_self]
    rw [ih fun d hd => hs d (List.mem_cons_of_mem c hd)]

theorem spanHost_brackets {s r : List Char} (hs : ']' ∉ s) (hr : ∀ c ∈ r.head?, c = ':') :
    spanHost true (s ++ ']' :: r) = (s ++ [']'], r) := by
  induction s with
  | nil =>
    have hrest := spanHost_name (s := []) nofun hr
    rw [List.nil_append] at hrest
    rw [List.nil_append, spanHost, if_neg (by decide)]
    simp [hrest]
  | cons c s ih =>
    obtain ⟨hc, hs⟩ := List.ne_and_not_mem_of_not_mem_cons hs
    rw [List.cons_append, spanHost, if_neg (by simp)]
    simp only [if_neg (Ne.symm hc), ite_self, ih hs]
    rfl

/-- The text of a host in normal form is split off from what follows it. -/
theorem spanHost_text {k : SchemeKind} {h : Host} (hnormal : h.Normal k) {r : List Char}
    (hr : ∀ c ∈ r.head?, c = ':') : spanHost false (h.text.toList ++ r) = (h.text.toList, r) := by
  cases hnormal with
  | name hclean _ =>
    refine spanHost_name (fun c hc => ⟨?_, ?_⟩) hr <;>
    · rintro rfl
      cases (hclean _ hc).1
  | ipv4 a _ =>
    rw [Host.text, String.toList_ofList]
    refine spanHost_name (fun c hc => ⟨?_, ?_⟩) hr <;>
    · rintro rfl
      rcases ipv4_chars hc with h | h <;> cases h
  | @ipv6 a _ =>
    have hclose : ']' ∉ a.text := fun hmem => by
      rcases ipv6_chars hmem with h | h <;> cases h
    have hspan := spanHost_brackets hclose hr
    rw [Host.text, String.toList_ofList, List.append_assoc, List.singleton_append, List.cons_append,
      spanHost, if_neg (by decide)]
    simp only [if_true, hspan]
    rfl

theorem splitUser_of_not_mem {s : List Char} (h : '@' ∉ s) : splitUser s = (none, s) := by
  unfold splitUser
  rw [afterLast_of_not_mem h]
  exact if_pos rfl

theorem splitUser_append {s : List Char} (h : '@' ∉ s) (user : List Char) :
    splitUser (user ++ '@' :: s) = (some user, s) := by
  have hsize : (user ++ '@' :: s).length - s.length - 1 = user.length := by
    rw [List.length_append, List.length_cons]
    omega
  unfold splitUser
  rw [afterLast_append h]
  dsimp only
  rw [hsize, List.take_left, if_neg]
  rw [List.length_append, List.length_cons]
  omega

/-! ## Authorities -/

/-- An authority in the normal form of a scheme. -/
structure NormalAuthority (scheme : String) (a : Authority) : Prop where
  user : NormalUser a.user
  host : a.host.Normal (SchemeKind.of scheme)
  port : NormalPort scheme a.port

variable {scheme : String}

theorem normal_readServer {user : String} (huser : NormalUser user) {s left : List Char}
    {a : Authority} (h : readServer scheme user s = .ok (a, left)) : NormalAuthority scheme a := by
  unfold readServer at h
  dsimp only at h
  obtain ⟨host, hhost, h⟩ := bind_eq_ok.mp h
  have hnormal := normal_of_readHost hhost
  split at h
  · cases h
    exact ⟨huser, hnormal, nofun⟩
  · split at h
    · cases h
    · obtain ⟨⟨port, rest⟩, hport, h⟩ := bind_eq_ok.mp h
      cases h
      exact ⟨huser, hnormal, normalPort_ownPort? (le_of_readPort none nofun hport)⟩

/-- Every authority that is read is in normal form. -/
theorem normal_readAuthority {s rest left : List Char} {a : Authority}
    (h : readAuthority scheme s rest = .ok (a, left)) : NormalAuthority scheme a := by
  unfold readAuthority at h
  split at h
  · obtain ⟨⟨b, remaining⟩, hserver, h⟩ := bind_eq_ok.mp h
    cases h
    exact normal_readServer normalUser_empty hserver
  · split at h
    · cases h
    · obtain ⟨⟨b, remaining⟩, hserver, h⟩ := bind_eq_ok.mp h
      dsimp only at h
      split at h
      · cases h
      · cases h
        exact normal_readServer (normalUser_userText _) hserver

/-- The text of an authority, part by part. -/
theorem toList_text (a : Authority) : a.text.toList =
    (if a.user.isEmpty then [] else a.user.toList ++ ['@']) ++
      (a.host.text.toList ++ portText a.port) := by
  unfold Authority.text portText
  rw [String.toList_append, String.toList_append, List.append_assoc]
  congr 1
  · split
    · rfl
    · exact String.toList_append
  · cases a.port <;> simp

theorem text_of_no_user {a : Authority} (huser : a.user = "") :
    a.text.toList = a.host.text.toList ++ portText a.port := by
  rw [toList_text, huser]
  rfl

/-- What stays the same when an authority is read again. -/
structure SameAuthority (a b : Authority) : Prop where
  user : a.user = b.user
  host : a.host.text = b.host.text
  port : a.port = b.port

theorem SameAuthority.text {a b : Authority} (h : SameAuthority a b) : a.text = b.text := by
  unfold Authority.text
  rw [h.user, h.host, h.port]

theorem readServer_again {a a' : Authority} (hnormal : NormalAuthority scheme a) {left : List Char}
    (h : readServer scheme a.user (a.host.text.toList ++ portText a.port) = .ok (a', left)) :
    SameAuthority a' a ∧ left = [] := by
  have hhead : ∀ c ∈ (portText a.port).head?, c = ':' := by
    cases a.port with
    | none => nofun
    | some p =>
      intro c hc
      cases hc
      rfl
  unfold readServer at h
  rw [spanHost_text hnormal.host hhead] at h
  dsimp only at h
  obtain ⟨host, hhost, h⟩ := bind_eq_ok.mp h
  have htext := text_of_readHost hnormal.host hhost
  cases hport : a.port with
  | none =>
    rw [hport] at h
    cases h
    exact ⟨⟨rfl, htext, hport.symm⟩, rfl⟩
  | some p =>
    obtain ⟨hsmall, hown⟩ := hnormal.port p hport
    rw [hport] at h
    dsimp only [portText] at h
    split at h
    · cases h
    · rw [readPort_digitsOf hsmall] at h
      cases h
      refine ⟨⟨rfl, htext, ?_⟩, rfl⟩
      rw [hport]
      exact if_neg fun heq => hown heq.symm

theorem at_not_mem_server {a : Authority} (hnormal : NormalAuthority scheme a) :
    '@' ∉ a.host.text.toList ++ portText a.port := fun hmem => by
  rcases List.mem_append.mp hmem with hmem | hmem
  · cases hnormal.host.inServer _ hmem
  · cases inServer_of_mem_portText _ hmem

/-- The text of an authority in normal form is read as an authority with this text. -/
theorem readAuthority_again {a a' : Authority} (hnormal : NormalAuthority scheme a) {rest left : List Char}
    (h : readAuthority scheme a.text.toList rest = .ok (a', left)) : SameAuthority a' a ∧ left = rest := by
  have hserver := at_not_mem_server hnormal
  by_cases huser : a.user = ""
  · unfold readAuthority at h
    rw [text_of_no_user huser, splitUser_of_not_mem hserver] at h
    obtain ⟨⟨b, remaining⟩, hread, h⟩ := bind_eq_ok.mp h
    cases h
    obtain ⟨hsame, rfl⟩ := readServer_again hnormal (by rwa [huser])
    exact ⟨hsame, rfl⟩
  · have htext : a.text.toList = a.user.toList ++ '@' :: (a.host.text.toList ++ portText a.port) := by
      rw [toList_text, if_neg (by rwa [String.isEmpty_iff]), List.append_assoc,
        List.singleton_append]
    unfold readAuthority at h
    rw [htext, splitUser_append hserver] at h
    dsimp only at h
    rw [userText_again hnormal.user] at h
    split at h
    · cases h
    · obtain ⟨⟨b, remaining⟩, hread, h⟩ := bind_eq_ok.mp h
      dsimp only at h
      split at h
      · cases h
      · cases h
        obtain ⟨hsame, rfl⟩ := readServer_again hnormal hread
        exact ⟨hsame, rfl⟩

/-- The text of an authority in normal form has no character that ends it. -/
theorem chars_of_normalAuthority {a : Authority} (hnormal : NormalAuthority scheme a)
    (k : SchemeKind) : ∀ c ∈ a.text.toList, 0x20 < c.toNat ∧ endsAuthority k c = false := by
  have hserver : ∀ c, inServer c = true → 0x20 < c.toNat ∧ endsAuthority k c = false :=
    fun c hc => ⟨large_of_inServer hc, not_endsAuthority_of_inServer k hc⟩
  intro c hc
  rw [toList_text, List.mem_append, List.mem_append] at hc
  rcases hc with hc | hc | hc
  · split at hc
    · cases hc
    · rcases List.mem_append.mp hc with hc | hc
      · exact hserver c (inServer_of_normalUser hnormal.user c hc)
      · cases List.mem_singleton.mp hc
        cases k <;> decide
  · exact hserver c (hnormal.host.inServer c hc)
  · exact hserver c (inServer_of_mem_portText c hc)

end Switchboard.Url
