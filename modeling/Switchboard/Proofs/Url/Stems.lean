import Switchboard.Proofs.Url.Normal
/-
  A URL without its query and fragment, read again. The stem of a URL, its text without query and
  fragment, is read as a URL with the same server and the same path (`reread_of_ofText`). There are
  two exceptions. A URL without an authority may change, but gets none. A file on a server whose path
  starts with a drive letter, which the reader lets pass where empty segments stand before it, loses
  its server.
-/
namespace Switchboard

/-- The text of a URL without its query and its fragment. -/
def Url.stem (u : Url) : String := u.origin ++ u.pathText

theorem Url.text_eq_stem (u : Url) : u.text = u.stem ++ u.suffix := rfl

namespace Url

open Switchboard.Json (bind_eq_ok)
open Switchboard.Text

/-! ## Cleaning -/

theorem dropWhile_of_head {α : Type} {p : α → Bool} {s : List α} (h : ∀ a ∈ s.head?, p a = false) :
    s.dropWhile p = s := by
  cases s with
  | nil => rfl
  | cons a s => exact List.dropWhile_cons_of_neg (by rw [h a rfl]; nofun)

theorem isControl_of_blank {c : Char} (h : (c == '\t' || c == '\n' || c == '\r') = true) :
    isControl c = true := by
  simp only [Bool.or_eq_true, beq_iff_eq] at h
  rcases h with (rfl | rfl) | rfl <;> rfl

theorem not_blank_of_large {c : Char} (h : 0x20 < c.toNat) :
    (c == '\t' || c == '\n' || c == '\r') = false := by
  refine eq_false_of_ne_true fun hblank => ?_
  simp only [Bool.or_eq_true, beq_iff_eq] at hblank
  rcases hblank with (rfl | rfl) | rfl <;> exact absurd h (by decide)

/-- A text that starts without blanks, and has no controls after that, loses only spaces at its
    end. -/
theorem cleaned_append {p t : List Char} (hne : p ≠ []) (hp : ∀ c ∈ p, 0x20 < c.toNat)
    (ht : ∀ c ∈ t, isControl c = false) : ∃ t', t' <+: t ∧ cleaned (p ++ t) = p ++ t' := by
  have hedge : ∀ c ∈ p, decide (c.toNat ≤ 0x20) = false := fun c hc =>
    decide_eq_false (Nat.not_le.mpr (hp c hc))
  have hfront : (p ++ t).dropWhile (fun c => decide (c.toNat ≤ 0x20)) = p ++ t := by
    obtain ⟨c, r, rfl⟩ := List.exists_cons_of_ne_nil hne
    exact dropWhile_of_head fun d hd =>
      hedge d (List.mem_cons.mpr (.inl (Option.some.inj hd).symm))
  have hback : p.reverse.dropWhile (fun c => decide (c.toNat ≤ 0x20)) = p.reverse :=
    dropWhile_of_head fun d hd => hedge d (List.mem_reverse.mp (List.mem_of_mem_head? hd))
  let rest := t.reverse.dropWhile fun c => decide (c.toNat ≤ 0x20)
  have hinner : (((p ++ t).dropWhile (fun c => decide (c.toNat ≤ 0x20))).reverse.dropWhile
      (fun c => decide (c.toNat ≤ 0x20))).reverse = p ++ rest.reverse := by
    rw [hfront, List.reverse_append, List.dropWhile_append]
    split
    · next hempty =>
      rw [hback, List.reverse_reverse]
      have : rest = [] := List.isEmpty_iff.mp hempty
      rw [this, List.reverse_nil, List.append_nil]
    · rw [List.reverse_append, List.reverse_reverse]
  have hstart : rest.reverse <+: t := by
    rw [← List.reverse_suffix, List.reverse_reverse]
    exact List.dropWhile_suffix _
  refine ⟨rest.reverse, hstart, ?_⟩
  unfold cleaned
  dsimp only
  rw [hinner, List.filter_eq_self]
  intro c hc
  rw [Bool.not_eq_true']
  rcases List.mem_append.mp hc with hc | hc
  · exact not_blank_of_large (hp c hc)
  · refine eq_false_of_ne_true fun hblank => ?_
    have hcontrol := isControl_of_blank hblank
    rw [ht c (hstart.subset hc)] at hcontrol
    cases hcontrol

theorem cleaned_self {s : List Char} (hne : s ≠ []) (hs : ∀ c ∈ s, 0x20 < c.toNat) :
    cleaned s = s := by
  have hnone : ∀ c ∈ [], isControl c = false := nofun
  obtain ⟨t, ht, hcleaned⟩ := cleaned_append hne hs hnone
  rwa [List.prefix_nil.mp ht, List.append_nil] at hcleaned

/-! ## Hosts of URLs -/

/-- A text that is empty or starts with a letter is the text of no address. -/
theorem eq_name_of_text {h : Host} {s : String} (hs : ∀ c ∈ s.toList.head?, c.isAlpha = true)
    (htext : h.text = s) : h = .name s := by
  cases h with
  | name t => rw [← htext, Host.text]
  | ipv4 a =>
    rw [Host.text] at htext
    have hne : a.text ≠ [] := by
      rw [ipv4_text_eq]
      simp
    obtain ⟨c, r, hcr⟩ := List.exists_cons_of_ne_nil hne
    rw [← htext, String.toList_ofList, hcr] at hs
    have halpha := hs c rfl
    rcases ipv4_chars (hcr ▸ List.mem_cons_self) with hdigit | rfl
    · have hc := forall_ascii (p := fun c => c.isDigit = true → c.isAlpha = false) (by decide)
        (lt_of_isDigit hdigit) hdigit
      rw [hc] at halpha
      cases halpha
    · cases halpha
  | ipv6 a =>
    rw [Host.text] at htext
    rw [← htext, String.toList_ofList] at hs
    cases hs '[' rfl

theorem host?_eq_none_of_host {u : Url} {a : Authority} (ha : u.authority = some a)
    (hhost : a.host = .name "") : u.host? = none := by
  unfold host?
  rw [ha]
  exact if_pos hhost

/-- What is read from the stem of a URL: its server and its path; or a URL without a host, if the URL
    has no authority, or is that of a file whose path starts with a drive letter. -/
inductive Reread (u : Url) : Url → Prop
  | same {a a' : Authority} (ha : u.authority = some a) (hsame : SameAuthority a' a)
      (hdrive : ¬(u.scheme = "file" ∧ startsWithDrive u.path.toList = true)) :
      Reread u ⟨u.scheme, some a', u.path, none, none⟩
  | plain {u₀ : Url} (ha : u.authority = none) (hhost : u₀.host? = none) : Reread u u₀
  | drive {u₀ : Url} (hscheme : u.scheme = "file") (hdrive : startsWithDrive u.path.toList = true)
      (hhost : u₀.host? = none) : Reread u u₀

/-! ## Reading the stem -/

theorem toList_stem_plain {u : Url} (ha : u.authority = none) :
    u.stem.toList = u.scheme.toList ++ ':' :: u.pathText.toList := by
  unfold stem origin
  rw [ha]
  simp

theorem toList_stem {u : Url} {a : Authority} (ha : u.authority = some a) :
    u.stem.toList = u.scheme.toList ++ ':' :: '/' :: '/' :: (a.text.toList ++ u.path.toList) := by
  have hpath : u.pathText = u.path := by
    unfold pathText
    rw [ha]
    rfl
  unfold stem origin
  rw [ha, hpath]
  simp

/-- The path of a URL without authority is never written so that it could be taken for one. -/
theorem pathText_not_slashes {u : Url} (ha : u.authority = none) (r : List Char) :
    u.pathText.toList ≠ '/' :: '/' :: r := by
  intro htext
  unfold pathText at htext
  rw [ha] at htext
  split at htext
  · simp at htext
  · next hbegins => exact hbegins ⟨rfl, begins_iff.mpr ⟨r, htext⟩⟩

theorem reread_plain {u u₀ : Url} (hscheme : NormalScheme u.scheme)
    (hk : SchemeKind.of u.scheme = .other) (ha : u.authority = none)
    (hpath : ∀ c ∈ u.path.toList, isControl c = false) (hread : ofText u.stem = .ok u₀) :
    u₀.host? = none := by
  have hchars : ∀ c ∈ u.scheme.toList ++ [':'], 0x20 < c.toNat := by
    intro c hc
    rcases List.mem_append.mp hc with hc | hc
    · exact (chars_of_normalScheme hscheme c hc).1
    · cases List.mem_singleton.mp hc
      decide
  have hrest : ∀ c ∈ u.pathText.toList, isControl c = false := by
    unfold pathText
    split
    · intro c hc
      rw [String.toList_append] at hc
      rcases List.mem_append.mp hc with hc | hc
      · have hdot : ∀ d ∈ "/.".toList, isControl d = false := clean_of_any (by decide)
        exact hdot c hc
      · exact hpath c hc
    · exact hpath
  obtain ⟨t, ht, hcleaned⟩ := cleaned_append (List.concat_ne_nil _ _) hchars hrest
  have hspan : spanScheme? (cleaned u.stem.toList) = some (u.scheme, t) := by
    rw [toList_stem_plain ha, ← List.singleton_append, ← List.append_assoc, hcleaned,
      List.append_assoc, List.singleton_append, spanScheme?_again hscheme]
  unfold ofText at hread
  rw [hspan] at hread
  dsimp only at hread
  rw [hk] at hread
  dsimp only at hread
  split at hread
  · obtain ⟨x, hx⟩ := ht
    exact absurd hx.symm (pathText_not_slashes ha _)
  · cases hread
    rfl

/-- A path that is written behind an authority: empty, or in normal form. -/
theorem head_of_path {k : SchemeKind} {path : String}
    (hpath : k = .other ∧ path = "" ∨ NormalPath k path.toList) :
    ∀ c ∈ path.toList.head?, c = '/' := by
  rcases hpath with ⟨-, rfl⟩ | ⟨xs, x, hpath, -⟩
  · nofun
  · rw [hpath]
    intro c hc
    cases hc
    rfl

theorem readPathSuffix_again {scheme path : String} (a : Authority)
    (hfile : SchemeKind.of scheme ≠ .file)
    (hpath : SchemeKind.of scheme = .other ∧ path = "" ∨
      NormalPath (SchemeKind.of scheme) path.toList) :
    readPathSuffix scheme (some a) path.toList = ⟨scheme, some a, path, none, none⟩ := by
  rcases hpath with ⟨hk, rfl⟩ | hpath
  · unfold readPathSuffix
    rw [hk]
    rfl
  · obtain ⟨t, ht, hread⟩ := readPath_again hpath fun hk => absurd hk hfile
    have hpath : String.ofList ('/' :: t) = path := by rw [← ht, String.ofList_toList]
    unfold readPathSuffix
    rw [ht] at hread ⊢
    cases hk : SchemeKind.of scheme with
    | file => exact absurd hk hfile
    | network =>
      rw [hk] at hread
      simp [isSlash, hread, readSuffix, hpath]
    | other =>
      rw [hk, ← readPath_other_slash] at hread
      simp [hread, readSuffix, hpath]

/-- What is an authority ends where a path that is empty or starts with a slash begins. -/
theorem span_authority {k : SchemeKind} {s path : List Char}
    (hs : ∀ c ∈ s, endsAuthority k c = false) (hpath : ∀ c ∈ path.head?, c = '/') :
    (s ++ path).takeWhile (fun c => !endsAuthority k c) = s ∧
      (s ++ path).dropWhile (fun c => !endsAuthority k c) = path := by
  have hpart : ∀ c ∈ s, (!endsAuthority k c) = true := fun c hc => by rw [hs c hc]; rfl
  have hstop : ∀ c ∈ path.head?, (!endsAuthority k c) = false := by
    intro c hc
    cases hpath c hc
    rfl
  rw [List.takeWhile_append_of_pos hpart, List.dropWhile_append_of_pos hpart,
    dropWhile_of_head hstop]
  refine ⟨?_, rfl⟩
  cases path with
  | nil => rw [List.takeWhile_nil, List.append_nil]
  | cons c r => rw [List.takeWhile_cons_of_neg (by rw [hstop c rfl]; nofun), List.append_nil]

theorem readAfterSlashes_again {scheme path : String} {a : Authority}
    (hfile : SchemeKind.of scheme ≠ .file) (ha : NormalAuthority scheme a)
    (hpath : SchemeKind.of scheme = .other ∧ path = "" ∨
      NormalPath (SchemeKind.of scheme) path.toList) {u₀ : Url}
    (hread : readAfterSlashes scheme (a.text.toList ++ path.toList) = .ok u₀) :
    ∃ a', SameAuthority a' a ∧ u₀ = ⟨scheme, some a', path, none, none⟩ := by
  obtain ⟨htake, hdrop⟩ := span_authority
    (fun c hc => (chars_of_normalAuthority ha (SchemeKind.of scheme) c hc).2) (head_of_path hpath)
  unfold readAfterSlashes at hread
  dsimp only at hread
  rw [htake, hdrop] at hread
  obtain ⟨⟨a', rest⟩, hauthority, hread⟩ := bind_eq_ok.mp hread
  obtain ⟨hsame, rfl⟩ := readAuthority_again ha hauthority
  cases hread
  exact ⟨a', hsame, readPathSuffix_again a' hfile hpath⟩

theorem ne_nil_of_host {a : Authority} (hhost : a.host ≠ .name "") : a.text.toList ≠ [] := by
  intro hnil
  rw [toList_text, List.append_eq_nil_iff, List.append_eq_nil_iff] at hnil
  exact hhost (eq_name_of_text nofun (String.toList_eq_nil_iff.mp hnil.2.1))

/-- All slashes before an authority are passed over, and nothing of the authority is. -/
theorem dropWhile_slashes {scheme : String} {a : Authority} (ha : NormalAuthority scheme a)
    (hhost : a.host ≠ .name "") (path : List Char) :
    ('/' :: '/' :: (a.text.toList ++ path)).dropWhile (isSlash .network) =
      a.text.toList ++ path := by
  have hhead : ∀ c ∈ (a.text.toList ++ path).head?, isSlash .network c = false := by
    obtain ⟨c, r, hcr⟩ := List.exists_cons_of_ne_nil (ne_nil_of_host hhost)
    have hc := (chars_of_normalAuthority ha .network c (hcr ▸ List.mem_cons_self)).2
    simp only [endsAuthority, Bool.or_eq_false_iff] at hc
    rw [hcr]
    rintro d hd
    cases hd
    exact hc.1.1
  rw [List.dropWhile_cons_of_pos rfl, List.dropWhile_cons_of_pos rfl, dropWhile_of_head hhead]

/-- The text of a URL with an authority and without query and fragment is cleaned to itself. -/
theorem cleaned_stem {u : Url} {a : Authority} (ha : u.authority = some a)
    (hscheme : NormalScheme u.scheme) (hauthority : ∀ c ∈ a.text.toList, 0x20 < c.toNat)
    (hpath : ∀ c ∈ u.path.toList, inPath c = false) : cleaned u.stem.toList = u.stem.toList := by
  rw [toList_stem ha]
  refine cleaned_self (List.append_ne_nil_of_right_ne_nil _ (List.cons_ne_nil _ _)) fun c hc => ?_
  simp only [List.mem_append, List.mem_cons] at hc
  rcases hc with hc | rfl | rfl | rfl | hc | hc
  · exact (chars_of_normalScheme hscheme c hc).1
  · decide
  · decide
  · decide
  · exact hauthority c hc
  · exact large_of_inPath (hpath c hc)

theorem reread_server {u u₀ : Url} {a : Authority} (hu : u.authority = some a)
    (hscheme : NormalScheme u.scheme) (hfile : SchemeKind.of u.scheme ≠ .file)
    (ha : NormalAuthority u.scheme a)
    (hhost : SchemeKind.of u.scheme = .network → a.host ≠ .name "")
    (hpath : SchemeKind.of u.scheme = .other ∧ u.path = "" ∨
      NormalPath (SchemeKind.of u.scheme) u.path.toList) (hread : ofText u.stem = .ok u₀) :
    Reread u u₀ := by
  have hclean : ∀ c ∈ u.path.toList, inPath c = false := by
    rcases hpath with ⟨-, hpath⟩ | hpath
    · rw [hpath]
      nofun
    · exact chars_of_normalPath hpath
  have hspan : spanScheme? (cleaned u.stem.toList) =
      some (u.scheme, '/' :: '/' :: (a.text.toList ++ u.path.toList)) := by
    rw [cleaned_stem hu hscheme (fun c hc => (chars_of_normalAuthority ha .other c hc).1) hclean,
      toList_stem hu, spanScheme?_again hscheme]
  have hafter : readAfterSlashes u.scheme (a.text.toList ++ u.path.toList) = .ok u₀ := by
    unfold ofText at hread
    rw [hspan] at hread
    dsimp only at hread
    cases hk : SchemeKind.of u.scheme with
    | file => exact absurd hk hfile
    | network =>
      rw [hk] at hread
      dsimp only at hread
      rw [dropWhile_slashes ha (hhost hk)] at hread
      exact hread
    | other =>
      rw [hk] at hread
      exact hread
  obtain ⟨a', hsame, rfl⟩ := readAfterSlashes_again hfile ha hpath hafter
  refine .same hu hsame fun hdrive => hfile ?_
  rw [hdrive.1]
  rfl

/-! ## Files -/

theorem isDriveLetter_of_normal {h : Host} (hnormal : h.Normal .file) :
    isDriveLetter h.text.toList = false := by
  refine eq_false_of_ne_true fun hdrive => ?_
  unfold isDriveLetter at hdrive
  split at hdrive
  · next c d htext =>
    simp only [Bool.and_eq_true, Bool.or_eq_true, beq_iff_eq] at hdrive
    obtain ⟨halpha, hd⟩ := hdrive
    have hmem : d ∈ h.text.toList := htext ▸ List.mem_cons_of_mem c List.mem_cons_self
    cases hnormal with
    | name hclean _ =>
      have hforbidden := (hclean d hmem).1
      rcases hd with rfl | rfl <;> cases hforbidden
    | ipv4 a _ =>
      rw [Host.text, String.toList_ofList] at hmem
      rcases ipv4_chars hmem with hdigit | rfl
      · rcases hd with rfl | rfl <;> cases hdigit
      · rcases hd with hd | hd <;> cases hd
    | ipv6 _ =>
      rw [Host.text, String.toList_ofList, List.cons_append] at htext
      cases (List.cons.inj htext).1
      cases halpha
  · cases hdrive

theorem toList_text_file (h : Host) : (Authority.text ⟨"", h, none⟩).toList = h.text.toList := by
  rw [text_of_no_user rfl]
  exact List.append_nil _

/-- The text of a file's server has no character that ends it, and is no drive letter. -/
theorem chars_of_normalFileServer {a : Authority} (ha : NormalFileServer a) :
    (∀ c ∈ a.text.toList, inServer c = true) ∧ isDriveLetter a.text.toList = false := by
  rcases ha with rfl | ⟨h, rfl, hnormal, -⟩
  · exact ⟨nofun, rfl⟩
  · rw [toList_text_file]
    exact ⟨hnormal.inServer, isDriveLetter_of_normal hnormal⟩

/-- The server of a file is read as one with the same text. -/
theorem readFileHost_again {a a' : Authority} (ha : NormalFileServer a)
    (hread : readFileHost a.text.toList = .ok a') : SameAuthority a' a := by
  rcases ha with rfl | ⟨h, rfl, hnormal, hne, hlocal⟩
  · cases hread
    exact ⟨rfl, rfl, rfl⟩
  · have hnonempty : h.text.toList.isEmpty ≠ true := fun hempty =>
      ne_nil_of_host hne ((toList_text_file h).trans (List.isEmpty_iff.mp hempty))
    rw [toList_text_file] at hread
    unfold readFileHost at hread
    rw [if_neg hnonempty] at hread
    obtain ⟨h', hhost, hread⟩ := bind_eq_ok.mp hread
    have htext := text_of_ofSpecial rfl hnormal hhost
    have hlocal' : h' ≠ .name "localhost" := by
      rintro rfl
      refine hlocal (eq_name_of_text (fun c hc => ?_) htext.symm)
      cases (show "localhost".toList.head? = some 'l' by decide).symm.trans hc
      rfl
    cases hread
    rw [if_neg hlocal']
    exact ⟨rfl, htext, rfl⟩

theorem reread_file {u u₀ : Url} {a : Authority} (hu : u.authority = some a)
    (hscheme : u.scheme = "file") (ha : NormalFileServer a)
    (hpath : NormalPath .file u.path.toList) (hread : ofText u.stem = .ok u₀) :
    Reread u u₀ := by
  obtain ⟨hchars, hletter⟩ := chars_of_normalFileServer ha
  have hfile : NormalScheme u.scheme := hscheme ▸ normalScheme_file
  obtain ⟨htake, hdrop⟩ := span_authority
    (fun c hc => not_endsAuthority_of_inServer .file (hchars c hc)) (head_of_path (.inr hpath))
  unfold ofText at hread
  rw [cleaned_stem hu hfile (fun c hc => large_of_inServer (hchars c hc))
    (chars_of_normalPath hpath), toList_stem hu, spanScheme?_again hfile, hscheme] at hread
  change readFileServer (a.text.toList ++ u.path.toList) = .ok u₀ at hread
  unfold readFileServer at hread
  dsimp only at hread
  rw [htake, hdrop, hletter, if_neg Bool.false_ne_true] at hread
  obtain ⟨a', hhost, hread⟩ := bind_eq_ok.mp hread
  have hsame := readFileHost_again ha hhost
  have hurl : ∀ t, u.path.toList = '/' :: t →
      u₀ = fileUrl a' (readPath .file ['/'] t).1 (readPath .file ['/'] t).2 := by
    intro t ht
    rw [ht] at hread
    exact (Except.ok.inj hread).symm
  by_cases hdrive : startsWithDrive u.path.toList = true
  · obtain ⟨t, ht, hstate⟩ := drive_readPath hpath hdrive
    refine .drive hscheme hdrive (host?_eq_none_of_host (a := noServer) ?_ rfl)
    rw [hurl t ht]
    unfold fileUrl
    rw [if_pos hstate]
  · obtain ⟨t, ht, hstate⟩ := readPath_again hpath fun _ => eq_false_of_ne_true hdrive
    have hsame' : u₀ = ⟨u.scheme, some a', u.path, none, none⟩ := by
      rw [hurl t ht, hstate, hscheme]
      unfold fileUrl
      rw [String.ofList_toList]
      rfl
    rw [hsame']
    exact .same hu hsame fun h => hdrive h.2

/-- What the stem of a URL that has been read is read as. -/
theorem reread_of_ofText {text : String} {u u₀ : Url} (hu : ofText text = .ok u)
    (hread : ofText u.stem = .ok u₀) : Reread u u₀ := by
  cases normal_of_ofText hu with
  | plain hscheme hk hpath => exact .plain rfl (reread_plain hscheme hk rfl hpath hread)
  | server hscheme hfile ha hhost hpath => exact reread_server rfl hscheme hfile ha hhost hpath hread
  | file ha hpath => exact reread_file rfl rfl ha hpath hread

/-! ## The server, read again -/

theorem host?_same {u u₀ : Url} {a a' : Authority} (hu : u.authority = some a)
    (hu₀ : u₀.authority = some a') (hsame : SameAuthority a' a) :
    u₀.host?.map Host.text = u.host?.map Host.text := by
  have hempty : a'.host = .name "" ↔ a.host = .name "" := by
    constructor <;> intro h
    · exact eq_name_of_text nofun (hsame.host.symm.trans (by rw [h]; rfl))
    · exact eq_name_of_text nofun (hsame.host.trans (by rw [h]; rfl))
  unfold host?
  rw [hu, hu₀]
  dsimp only
  split
  · next h => rw [if_pos (hempty.mp h)]
  · next h => rw [if_neg fun ha => h (hempty.mpr ha), Option.map_some, Option.map_some, hsame.host]

/-- The text of what is read from a stem is that stem, where the server stays. -/
theorem text_same {u : Url} {a a' : Authority} (hu : u.authority = some a)
    (hsame : SameAuthority a' a) : text ⟨u.scheme, some a', u.path, none, none⟩ = u.stem := by
  have hpath : u.pathText = u.path := by
    unfold pathText
    rw [hu]
    rfl
  have horigin : origin ⟨u.scheme, some a', u.path, none, none⟩ = u.origin := by
    unfold origin
    rw [hu]
    dsimp only
    rw [hsame.text]
  unfold text stem
  rw [horigin, hpath]
  exact String.append_empty

/-- The stem of a URL with an authority has neither the mark of a query nor that of a fragment. -/
theorem marks_not_mem_stem {text : String} {u : Url} (hread : ofText text = .ok u) {a : Authority}
    (hu : u.authority = some a) : '?' ∉ u.stem.toList ∧ '#' ∉ u.stem.toList := by
  suffices h : ∀ c ∈ u.stem.toList, c ≠ '?' ∧ c ≠ '#' from
    ⟨fun hmem => (h _ hmem).1 rfl, fun hmem => (h _ hmem).2 rfl⟩
  have hparts : (∀ c ∈ u.scheme.toList, c ≠ '?' ∧ c ≠ '#') →
      (∀ c ∈ a.text.toList, c ≠ '?' ∧ c ≠ '#') → (∀ c ∈ u.path.toList, c ≠ '?' ∧ c ≠ '#') →
      ∀ c ∈ u.stem.toList, c ≠ '?' ∧ c ≠ '#' := by
    intro hscheme hauthority hpath c hc
    rw [toList_stem hu] at hc
    simp only [List.mem_append, List.mem_cons] at hc
    rcases hc with hc | rfl | rfl | rfl | hc | hc
    · exact hscheme c hc
    · decide
    · decide
    · decide
    · exact hauthority c hc
    · exact hpath c hc
  cases normal_of_ofText hread with
  | plain => cases hu
  | server hscheme _ ha _ hpath =>
    cases hu
    refine hparts (fun c hc => (chars_of_normalScheme hscheme c hc).2) (fun c hc => ?_) ?_
    · have hends := (chars_of_normalAuthority ha .other c hc).2
      constructor <;>
      · rintro rfl
        cases hends
    · rcases hpath with ⟨-, rfl⟩ | hpath
      · nofun
      · exact fun c hc => ne_mark_of_inPath (chars_of_normalPath hpath c hc)
  | file ha hpath =>
    cases hu
    refine hparts (fun c hc => (chars_of_normalScheme normalScheme_file c hc).2) (fun c hc => ?_)
      fun c hc => ne_mark_of_inPath (chars_of_normalPath hpath c hc)
    exact (ne_of_inServer ((chars_of_normalFileServer ha).1 c hc)).2.2.2

end Url

end Switchboard
