import Switchboard.Proofs.Url.Authorities
import Switchboard.Proofs.Url.Paths
/-
  URLs in normal form. There are three ways in which a URL is read: without an authority, with one,
  and as that of a file. For each the parts of the URL are in normal form (`Normal`), since each has
  been brought into it when it was read (`normal_of_ofText`).
-/
namespace Switchboard.Url

open Switchboard.Json (bind_eq_ok)
open Switchboard.Text

/-! ## Schemes -/

/-- A scheme in normal form: a letter, and then what else a scheme may have, all in lower case. -/
def NormalScheme (scheme : String) : Prop :=
  ∃ c r, scheme.toList = c :: r ∧ c.isAlpha = true ∧
    ∀ d ∈ c :: r, isSchemeChar d = true ∧ d.isUpper = false

theorem lt_of_isSchemeChar {c : Char} (h : isSchemeChar c = true) : c.toNat < 0x80 := by
  simp only [isSchemeChar, Char.isAlphanum, Bool.or_eq_true, beq_iff_eq] at h
  rcases h with (((h | h) | rfl) | rfl) | rfl
  · exact lt_of_isAlpha h
  · exact lt_of_isDigit h
  all_goals decide

theorem isSchemeChar_of_isAlpha {c : Char} (h : c.isAlpha = true) : isSchemeChar c = true := by
  simp [isSchemeChar, Char.isAlphanum, h]

/-- Lower case keeps the characters of a scheme. -/
theorem toLower_schemeChar {c : Char} (h : isSchemeChar c = true) :
    (isSchemeChar c.toLower = true ∧ c.toLower.isUpper = false) ∧
      (c.isAlpha = true → c.toLower.isAlpha = true) :=
  forall_ascii (p := fun c => isSchemeChar c = true →
      (isSchemeChar c.toLower = true ∧ c.toLower.isUpper = false) ∧
        (c.isAlpha = true → c.toLower.isAlpha = true))
    (by decide) (lt_of_isSchemeChar h) h

theorem normalScheme_of_spanScheme? {s rest : List Char} {scheme : String}
    (h : spanScheme? s = some (scheme, rest)) : NormalScheme scheme := by
  unfold spanScheme? at h
  split at h
  · cases h
  · next c r =>
    split at h
    · next halpha =>
      split at h
      · cases h
        refine ⟨c.toLower, lowerAscii (r.takeWhile isSchemeChar), String.toList_ofList, ?_, ?_⟩
        · exact (toLower_schemeChar (isSchemeChar_of_isAlpha halpha)).2 halpha
        · intro d hd
          obtain ⟨e, he, rfl⟩ := List.mem_map.mp
            (show d ∈ (c :: r.takeWhile isSchemeChar).map Char.toLower from hd)
          rcases List.mem_cons.mp he with rfl | he
          · exact (toLower_schemeChar (isSchemeChar_of_isAlpha halpha)).1
          · exact (toLower_schemeChar (List.all_eq_true.mp List.all_takeWhile e he)).1
      · cases h
    · cases h

theorem lowerAscii_of_not_isUpper {s : List Char} (h : ∀ c ∈ s, c.isUpper = false) :
    lowerAscii s = s := by
  unfold lowerAscii
  rw [List.map_congr_left fun c hc => toLower_of_not_isUpper (h c hc)]
  exact List.map_id s

/-- A scheme in normal form is split off as it stands. -/
theorem spanScheme?_again {scheme : String} (h : NormalScheme scheme) (rest : List Char) :
    spanScheme? (scheme.toList ++ ':' :: rest) = some (scheme, rest) := by
  obtain ⟨c, r, htext, halpha, hchars⟩ := h
  have hr : ∀ d ∈ r, isSchemeChar d = true := fun d hd => (hchars d (List.mem_cons_of_mem c hd)).1
  have htake : (r ++ ':' :: rest).takeWhile isSchemeChar = r := by
    rw [List.takeWhile_append_of_pos hr, List.takeWhile_cons_of_neg (by decide), List.append_nil]
  have hdrop : (r ++ ':' :: rest).dropWhile isSchemeChar = ':' :: rest := by
    rw [List.dropWhile_append_of_pos hr, List.dropWhile_cons_of_neg (by decide)]
  rw [htext]
  unfold spanScheme?
  rw [List.cons_append]
  simp only [halpha, if_true, hdrop, htake]
  rw [lowerAscii_of_not_isUpper fun d hd => (hchars d hd).2, ← htext, String.ofList_toList]

theorem normalScheme_file : NormalScheme "file" := by
  refine ⟨'f', ['i', 'l', 'e'], rfl, rfl, ?_⟩
  simp only [List.forall_mem_cons]
  exact ⟨by decide, by decide, by decide, by decide, nofun⟩

theorem chars_of_normalScheme {scheme : String} (h : NormalScheme scheme) :
    ∀ c ∈ scheme.toList, 0x20 < c.toNat ∧ c ≠ '?' ∧ c ≠ '#' := by
  obtain ⟨c, r, htext, -, hchars⟩ := h
  intro d hd
  have hscheme := (hchars d (htext ▸ hd)).1
  exact forall_ascii (p := fun d => isSchemeChar d = true → 0x20 < d.toNat ∧ d ≠ '?' ∧ d ≠ '#')
    (by decide) (lt_of_isSchemeChar hscheme) hscheme

/-! ## Normal form -/

/-- The authority of a file in normal form: that of the local machine, or a host under its name. -/
def NormalFileServer (a : Authority) : Prop :=
  a = noServer ∨ ∃ h : Host, a = ⟨"", h, none⟩ ∧ h.Normal .file ∧ h ≠ .name "" ∧
    h ≠ .name "localhost"

/-- URLs in normal form, by the three ways in which they are read. -/
inductive Normal : Url → Prop
  | plain {scheme path : String} {query fragment : Option String} (hscheme : NormalScheme scheme)
      (hk : SchemeKind.of scheme = .other) (hpath : ∀ c ∈ path.toList, isControl c = false) :
      Normal ⟨scheme, none, path, query, fragment⟩
  | server {scheme path : String} {a : Authority} {query fragment : Option String}
      (hscheme : NormalScheme scheme) (hfile : SchemeKind.of scheme ≠ .file)
      (ha : NormalAuthority scheme a)
      (hhost : SchemeKind.of scheme = .network → a.host ≠ .name "")
      (hpath : SchemeKind.of scheme = .other ∧ path = "" ∨
        NormalPath (SchemeKind.of scheme) path.toList) :
      Normal ⟨scheme, some a, path, query, fragment⟩
  | file {path : String} {a : Authority} {query fragment : Option String}
      (ha : NormalFileServer a) (hpath : NormalPath .file path.toList) :
      Normal ⟨"file", some a, path, query, fragment⟩

theorem chars_of_normalPath {k : SchemeKind} {path : List Char} (h : NormalPath k path) :
    ∀ c ∈ path, inPath c = false := by
  obtain ⟨xs, x, rfl, hxs, hx, -⟩ := h
  intro c hc
  simp only [directory, List.cons_append, List.mem_cons, List.mem_append, List.mem_flatMap] at hc
  rcases hc with rfl | ⟨y, hy, hc | rfl | hc⟩ | hc
  · rfl
  · exact (hxs y hy).clean c hc
  · rfl
  · cases hc
  · exact hx.clean c hc

theorem large_of_inPath {c : Char} (h : inPath c = false) : 0x20 < c.toNat := by
  have hcontrol := isControl_of_inPath h
  have hspace : c ≠ ' ' := by
    rintro rfl
    cases h
  have hne : c.toNat ≠ 0x20 := fun heq => hspace (Char.toNat_inj.mp heq)
  simp only [isControl, Bool.or_eq_false_iff, decide_eq_false_iff_not] at hcontrol
  omega

theorem normalPath_root (k : SchemeKind) : NormalPath k ['/'] :=
  ⟨[], [], rfl, nofun, settled_nil k, fun _ => nofun⟩

theorem readPath_other_slash (r : List Char) :
    readPath .other [] ('/' :: r) = readPath .other ['/'] r := rfl

theorem normal_readPathSuffix {scheme : String} {a : Authority} (hscheme : NormalScheme scheme)
    (hfile : SchemeKind.of scheme ≠ .file) (ha : NormalAuthority scheme a)
    (hhost : SchemeKind.of scheme = .network → a.host ≠ .name "") (s : List Char) :
    Normal (readPathSuffix scheme (some a) s) := by
  unfold readPathSuffix
  dsimp only
  refine .server hscheme hfile ha hhost ?_
  rw [String.toList_ofList, String.ofList_eq_empty_iff]
  split
  · next hk => exact .inl ⟨hk, rfl⟩
  · next c r hk =>
    rw [hk]
    split
    · exact .inl ⟨rfl, rfl⟩
    · refine .inr ?_
      split
      · next hc =>
        rw [hc, readPath_other_slash]
        exact (normal_readPath .other r).1
      · exact (normal_readPath .other (c :: r)).1
  · exact .inr (normal_readPath _ _).1
  · exact .inr (normalPath_root _)

theorem normal_readAfterSlashes {scheme : String} (hscheme : NormalScheme scheme)
    (hfile : SchemeKind.of scheme ≠ .file) {s : List Char} {u : Url}
    (hread : readAfterSlashes scheme s = .ok u) : Normal u := by
  unfold readAfterSlashes at hread
  obtain ⟨⟨a, rest⟩, hauthority, hread⟩ := bind_eq_ok.mp hread
  cases hread
  exact normal_readPathSuffix hscheme hfile (normal_readAuthority hauthority)
    (fun hk => host_ne_of_readAuthority hk hauthority) rest

theorem normal_readPlain {scheme : String} (hscheme : NormalScheme scheme)
    (hk : SchemeKind.of scheme = .other) (s : List Char) : Normal (readPlain scheme s) := by
  unfold readPlain
  dsimp only
  refine .plain hscheme hk ?_
  rw [String.toList_ofList]
  split
  · next r =>
    exact fun c hc => isControl_of_inPath (chars_of_normalPath (normal_readPath .other r).1 c hc)
  · exact percentEncode_clean isControl_clean _

theorem normal_fileUrl {a : Authority} (ha : NormalFileServer a) (s rest : List Char) :
    Normal (fileUrl a (readPath .file ['/'] s).1 rest) := by
  unfold fileUrl
  dsimp only
  refine .file ?_ ?_
  · split
    · exact .inl rfl
    · exact ha
  · rw [String.toList_ofList]
    exact (normal_readPath .file s).1

theorem normal_readFileHost {s : List Char} {a : Authority} (hread : readFileHost s = .ok a) :
    NormalFileServer a := by
  unfold readFileHost at hread
  split at hread
  · cases hread
    exact .inl rfl
  · obtain ⟨h, hhost, hread⟩ := bind_eq_ok.mp hread
    cases hread
    split
    · exact .inl rfl
    · next hlocal =>
      exact .inr ⟨h, rfl, normal_of_ofSpecial rfl hhost, ne_of_ofSpecial hhost, hlocal⟩

theorem normal_readFile {s : List Char} {u : Url} (hread : readFile s = .ok u) : Normal u := by
  unfold readFile at hread
  split at hread
  · split at hread
    · unfold readFileServer at hread
      dsimp only at hread
      split at hread
      · cases hread
        exact normal_fileUrl (.inl rfl) _ _
      · obtain ⟨a, ha, hread⟩ := bind_eq_ok.mp hread
        cases hread
        exact normal_fileUrl (normal_readFileHost ha) _ _
    · cases hread
      exact normal_fileUrl (.inl rfl) _ _
  · cases hread
    exact normal_fileUrl (.inl rfl) _ _

/-- Every URL that is read is in normal form. -/
theorem normal_of_ofText {text : String} {u : Url} (hread : ofText text = .ok u) : Normal u := by
  unfold ofText at hread
  split at hread
  · cases hread
  · next scheme s hspan =>
    have hscheme := normalScheme_of_spanScheme? hspan
    split at hread
    · exact normal_readFile hread
    · next hk => exact normal_readAfterSlashes hscheme (by rw [hk]; decide) hread
    · next hk =>
      have hfile : SchemeKind.of scheme ≠ .file := by rw [hk]; decide
      split at hread
      · exact normal_readAfterSlashes hscheme hfile hread
      · cases hread
        exact normal_readPlain hscheme hk _

end Switchboard.Url
