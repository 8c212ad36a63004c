import Switchboard.Proofs.Tenancy.Scan
import Switchboard.Proofs.Tenancy.WellFormed
import Switchboard.Proofs.Url.Stems
/-
  What follows the path of a URL, and the backend that the URL belongs to. The normal text of a URL
  ends with a slash, but where there is a query or a fragment the slash comes behind these. So a
  backend is looked for in the text before them as it stands (`starts_normalized_of_suffix`), and
  without them in that text with a slash (`starts_iff_starts_withSlash`). The answers differ exactly
  if the backend that is found without them is at the text with the slash (`firstClaim?_stem_iff`),
  or if the server of the URL is lost when its text without them is read (`resolve?_stem_iff`).
-/
namespace Switchboard

/-- A server that is read again has the same key. -/
theorem hostKey_same {u u₀ : Url} {a a' : Authority} (hu : u.authority = some a)
    (hu₀ : u₀.authority = some a') (hsame : Url.SameAuthority a' a) : u₀.hostKey = u.hostKey := by
  have hport : u₀.port? = u.port? := by
    unfold Url.port?
    rw [hu, hu₀]
    exact hsame.port
  have hhost := Url.host?_same hu hu₀ hsame
  unfold Url.hostKey
  rw [hport]
  cases h : u.host? with
  | none =>
    rw [h, Option.map_none, Option.map_eq_none_iff] at hhost
    rw [hhost]
  | some host =>
    rw [h, Option.map_some, Option.map_eq_some_iff] at hhost
    obtain ⟨host₀, h₀, htext⟩ := hhost
    rw [h₀]
    dsimp only
    rw [htext]

namespace Tenancy

open Switchboard.Settings (Source)

/-! ## Prefixes -/

/-- A prefix that does not have the mark ends before it. -/
theorem prefix_append_cons_iff {α : Type} {s t r : List α} {mark : α} (hmark : mark ∉ s) :
    s <+: t ++ mark :: r ↔ s <+: t := by
  refine ⟨fun h => ?_, fun h => h.trans (List.prefix_append t (mark :: r))⟩
  rcases List.prefix_or_prefix_of_prefix h (List.prefix_append t (mark :: r)) with hst | ⟨x, rfl⟩
  · exact hst
  · cases x with
    | nil => simp
    | cons c x =>
      rw [List.prefix_append_right_inj, List.cons_prefix_cons] at h
      exact absurd (h.1 ▸ List.mem_append_right t List.mem_cons_self) hmark

theorem toList_withSlash (s : String) :
    (withSlash s).toList = if s.toList.getLast? = some '/' then s.toList else s.toList ++ ['/'] := by
  unfold withSlash
  split
  · rfl
  · exact String.toList_push ..

/-- What starts a text starts the text with a slash at its end, and is not that text itself where the
    slash had to be added. -/
theorem starts_iff_starts_withSlash (s : List Char) (t : String) :
    s <+: t.toList ↔ s <+: (withSlash t).toList ∧
      ¬(t.toList.getLast? ≠ some '/' ∧ s = (withSlash t).toList) := by
  rw [toList_withSlash]
  split
  · next ht => simp [ht]
  · next ht =>
    rw [List.prefix_concat_iff]
    constructor
    · intro h
      refine ⟨.inr h, fun hs => ?_⟩
      have hle := h.length_le
      rw [hs.2, List.length_append, List.length_singleton] at hle
      omega
    · rintro ⟨hs | h, hne⟩
      · exact absurd ⟨ht, hs⟩ hne
      · exact h

/-- A search for fewer elements finds the same exactly if what is found is one of these. -/
theorem find?_eq_find?_iff {α : Type} {p q : α → Bool} {l : List α}
    (h : ∀ a ∈ l, p a = true → q a = true) :
    l.find? p = l.find? q ↔ ∀ a, l.find? q = some a → p a = true := by
  constructor
  · intro heq a ha
    exact List.find?_some (heq.trans ha)
  · intro hfound
    induction l with
    | nil => rfl
    | cons a l ih =>
      have hl : ∀ b ∈ l, p b = true → q b = true := fun b hb => h b (List.mem_cons_of_mem a hb)
      cases hq : q a with
      | true =>
        have hp : p a = true := hfound a (List.find?_cons_of_pos hq)
        rw [List.find?_cons_of_pos hq, List.find?_cons_of_pos hp]
      | false =>
        have hp : ¬p a = true := fun hp => by
          rw [h a List.mem_cons_self hp] at hq
          cases hq
        have hq' : ¬q a = true := ne_true_of_eq_false hq
        rw [List.find?_cons_of_neg hq', List.find?_cons_of_neg hp]
        rw [List.find?_cons_of_neg hq'] at hfound
        exact ih hl hfound

/-! ## Claims -/

/-- The suffix of a URL is empty or starts with the mark of a query or of a fragment. -/
theorem toList_suffix (u : Url) :
    u.suffix = "" ∨ ∃ r, u.suffix.toList = '?' :: r ∨ u.suffix.toList = '#' :: r := by
  unfold Url.suffix
  cases u.query with
  | some q => cases u.fragment with
    | some f => exact .inr ⟨q.toList ++ '#' :: f.toList, .inl (by simp)⟩
    | none => exact .inr ⟨q.toList, .inl (by simp)⟩
  | none => cases u.fragment with
    | some f => exact .inr ⟨f.toList, .inr (by simp)⟩
    | none => exact .inl rfl

/-- A text without marks starts the normal text of a URL with a suffix if it starts what stands
    before the suffix. -/
theorem starts_normalized_of_suffix {u : Url} (hsuffix : u.suffix ≠ "") {s : List Char}
    (hquery : '?' ∉ s) (hfragment : '#' ∉ s) :
    s <+: u.normalized.toList ↔ s <+: u.stem.toList := by
  have htext : ∃ mark r, mark ∉ s ∧ u.normalized.toList = u.stem.toList ++ mark :: r := by
    unfold Url.normalized
    rw [toList_withSlash, Url.text_eq_stem, String.toList_append]
    rcases (toList_suffix u).resolve_left hsuffix with ⟨r, hr | hr⟩ <;> rw [hr]
    · split
      · exact ⟨_, r, hquery, rfl⟩
      · exact ⟨_, r ++ ['/'], hquery, by simp⟩
    · split
      · exact ⟨_, r, hfragment, rfl⟩
      · exact ⟨_, r ++ ['/'], hfragment, by simp⟩
  obtain ⟨mark, r, hmark, htext⟩ := htext
  rw [htext]
  exact prefix_append_cons_iff hmark

/-- A backend whose URL has no marks claims a URL with a suffix if it claims the URL without it, and
    is not at the text of this one with a slash that had to be added. -/
theorem claims_iff_claims_stem {b : Backend} (hquery : '?' ∉ b.url.toList)
    (hfragment : '#' ∉ b.url.toList) {u u₀ : Url} (hsuffix : u.suffix ≠ "")
    (htext : u₀.text = u.stem) :
    b.claims u.normalized = true ↔ b.claims u₀.normalized = true ∧
      ¬(u₀.text.toList.getLast? ≠ some '/' ∧ b.url = u₀.normalized) := by
  rw [claims_iff_starts, claims_iff_starts, starts_normalized_of_suffix hsuffix hquery hfragment,
    ← htext, starts_iff_starts_withSlash, String.toList_inj, Url.normalized]

section

variable {s : Source}

theorem firstClaim?_stem_iff
    (hplain : ∀ p ∈ placedBackends s, '?' ∉ p.2.url.toList ∧ '#' ∉ p.2.url.toList) {u u₀ : Url}
    (hkey : u₀.hostKey = u.hostKey) (htext : u₀.text = u.stem) :
    (configuredTable s).firstClaim? u = (configuredTable s).firstClaim? u₀ ↔
      ¬(u.suffix ≠ "" ∧ u₀.text.toList.getLast? ≠ some '/' ∧
        ((configuredTable s).firstClaim? u₀).map (·.url) = some u₀.normalized) := by
  unfold HostTable.firstClaim?
  rw [hkey]
  by_cases hsuffix : u.suffix = ""
  · have hnormalized : u₀.normalized = u.normalized := by
      unfold Url.normalized
      rw [htext, Url.text_eq_stem, hsuffix, String.append_empty]
    simp [hnormalized, hsuffix]
  · have hclaims : ∀ b ∈ (configuredTable s).row u.hostKey,
        (b.claims u.normalized = true ↔ b.claims u₀.normalized = true ∧
          ¬(u₀.text.toList.getLast? ≠ some '/' ∧ b.url = u₀.normalized)) := by
      intro b hb
      have hplaced : (u.hostKey, b) ∈ placedBackends s := HostTable.mem_row_ofList.mp hb
      obtain ⟨hquery, hfragment⟩ := hplain _ hplaced
      exact claims_iff_claims_stem hquery hfragment hsuffix htext
    rw [find?_eq_find?_iff fun b hb hclaim => ((hclaims b hb).mp hclaim).1]
    cases hfound : ((configuredTable s).row u.hostKey).find? (·.claims u₀.normalized) with
    | none => simp
    | some b =>
      have hiff := hclaims b (List.mem_of_find?_eq_some hfound)
      rw [List.find?_some (p := fun x : Backend => x.claims u₀.normalized) hfound] at hiff
      simpa [hsuffix] using hiff

/-- No backend is listed for a URL without a host. -/
theorem firstClaim?_of_no_host {u : Url} (h : u.host? = none) :
    (configuredTable s).firstClaim? u = none := by
  have hkey : u.hostKey = "" := by
    unfold Url.hostKey
    rw [h]
  have hrow : (configuredTable s).row u.hostKey = [] := by
    refine List.eq_nil_iff_forall_not_mem.mpr fun b hb => ?_
    obtain ⟨id, hid, url, secret, hsection, hurl, -⟩ := mem_row_configuredTable.mp hb
    exact hostKey_ne (completeSection?_url hsection).2 (hurl.symm.trans hkey)
  unfold HostTable.firstClaim?
  rw [hrow]
  rfl

/-- The URL of a backend has no marks if the URL in its section has neither a query nor a
    fragment. -/
theorem marks_not_mem_url
    (hsections : ∀ id ∈ backendIds s, ∀ url secret, completeSection? s id = some (url, secret) →
      url.query = none ∧ url.fragment = none) :
    ∀ p ∈ placedBackends s, '?' ∉ p.2.url.toList ∧ '#' ∉ p.2.url.toList := by
  intro p hp
  obtain ⟨id, hid, url, secret, hsection, rfl⟩ := mem_placedBackends.mp hp
  obtain ⟨hquery, hfragment⟩ := hsections id hid url secret hsection
  obtain ⟨⟨text, hread⟩, hhost⟩ := completeSection?_url hsection
  obtain ⟨a, ha⟩ : ∃ a, url.authority = some a := by
    cases ha : url.authority with
    | some a => exact ⟨a, rfl⟩
    | none =>
      unfold Url.host? at hhost
      rw [ha] at hhost
      cases hhost
  obtain ⟨hnoquery, hnofragment⟩ := Url.marks_not_mem_stem hread ha
  have htext : url.text = url.stem := by
    rw [Url.text_eq_stem, Url.suffix, hquery, hfragment]
    exact String.append_empty
  have hmem : ∀ c ∈ url.normalized.toList, c ∈ url.stem.toList ∨ c = '/' := by
    intro c hc
    rw [Url.normalized, htext, toList_withSlash] at hc
    split at hc
    · exact .inl hc
    · exact (List.mem_append.mp hc).imp_right List.mem_singleton.mp
  exact ⟨fun h => (hmem '?' h).elim hnoquery (by decide),
    fun h => (hmem '#' h).elim hnofragment (by decide)⟩

end

/-- What follows the path of a URL hides its backend: this is found at the normal text of the URL
    without it, where the slash at the end had to be added. -/
def SuffixHides (r : Registry) (u u₀ : Url) : Prop :=
  u.suffix ≠ "" ∧ u₀.text.toList.getLast? ≠ some '/' ∧
    (r.resolve? u₀).map (·.backend.url) = some u₀.normalized

/-- A file on a server, whose path starts with a drive letter, which takes the server away when the
    text of the URL is read. -/
def HasDrive (u : Url) : Prop := u.scheme = "file" ∧ Url.startsWithDrive u.path.toList = true

/-- **Query and fragment, and the tenant.** With listed backends at URLs without query and fragment, a
    URL and what is read from its text without query and fragment belong to the same backend, or
    both to none, exactly if the backend is not hidden by them, and the URL, if its server is taken
    away by a drive letter, has no backend either. -/
theorem resolve?_stem_iff (s : Source)
    (hall : (s.flag? mainSection "allowall").getD false = false) (hlists : listsBackends s = true)
    (hsections : ∀ id ∈ backendIds s, ∀ url secret, completeSection? s id = some (url, secret) →
      url.query = none ∧ url.fragment = none)
    {text : String} {u u₀ : Url} (hu : Url.ofText text = .ok u) (hu₀ : Url.ofText u.stem = .ok u₀) :
    let r := (Registry.ofSource s).1
    (r.resolve? u).map (·.backend) = (r.resolve? u₀).map (·.backend) ↔
      ¬SuffixHides r u u₀ ∧ (HasDrive u → r.resolve? u = none) := by
  intro r
  have htable : r.hosts.backends = configuredTable s := by
    rw [← backends_ofBackends, ← ofSource_of_listsBackends hall hlists]
  have hresolve : ∀ v, (r.resolve? v).map (·.backend) = (configuredTable s).firstClaim? v := by
    intro v
    rw [backend_resolve?, fallback?_ofSource hall, htable, Option.map_none, Option.or_none]
  have hurl : (r.resolve? u₀).map (·.backend.url) =
      ((configuredTable s).firstClaim? u₀).map (·.url) := by
    rw [← hresolve u₀, Option.map_map]
    rfl
  have hnone : r.resolve? u = none ↔ (configuredTable s).firstClaim? u = none := by
    rw [← hresolve u, Option.map_eq_none_iff]
  unfold SuffixHides
  rw [hresolve u, hresolve u₀, hurl, hnone]
  cases Url.reread_of_ofText hu hu₀ with
  | same ha hsame hdrive =>
    rw [firstClaim?_stem_iff (marks_not_mem_url hsections) (hostKey_same ha rfl hsame)
      (Url.text_same ha hsame)]
    exact ⟨fun h => ⟨h, fun hd => absurd hd hdrive⟩, And.left⟩
  | plain ha hhost =>
    have hhost' : u.host? = none := by
      unfold Url.host?
      rw [ha]
    rw [firstClaim?_of_no_host hhost, firstClaim?_of_no_host hhost']
    simp
  | drive hscheme hdrive hhost =>
    rw [firstClaim?_of_no_host hhost]
    exact ⟨fun h => ⟨nofun, fun _ => h⟩, fun h => h.2 ⟨hscheme, hdrive⟩⟩

/-- One tenant below the root of a host. -/
def belowRoot : Source := textSettings
  [("a", [("url", "https://h/a/"), ("secret", "s")]), ("backend", [("backends", "a")])]

theorem belowRoot_sections : ∀ id ∈ backendIds belowRoot, ∀ url secret,
    completeSection? belowRoot id = some (url, secret) →
      url.query = none ∧ url.fragment = none := by
  have hids : backendIds belowRoot = ["a"] := by decide
  have hsection : completeSection? belowRoot "a" = some (urlOnH "/a/", "s") := by decide +kernel
  intro id hid url secret h
  rw [hids, List.mem_singleton] at hid
  rw [hid, hsection] at h
  cases h
  exact ⟨rfl, rfl⟩

theorem resolve?_stem_iff_belowRoot :
    let r := (Registry.ofSource belowRoot).1
    let u : Url := { urlOnH "/a/b" with query := "x", fragment := "y" }
    Url.ofText "https://h/a/b?x#y" = .ok u ∧ Url.ofText u.stem = .ok (urlOnH "/a/b") ∧
      (r.resolve? u).map (·.backend) = (r.resolve? (urlOnH "/a/b")).map (·.backend) ∧
      (r.resolve? u).map (·.backend) = some ⟨"a", "https://h/a/", .ofText "s", false⟩ := by
  intro r u
  have hu : Url.ofText "https://h/a/b?x#y" = .ok u := by decide +kernel
  have hu₀ : Url.ofText u.stem = .ok (urlOnH "/a/b") := by decide +kernel
  have hhides : ¬SuffixHides r u (urlOnH "/a/b") := by
    unfold SuffixHides
    decide +kernel
  have hdrive : ¬HasDrive u := fun h => absurd h.1 (by decide)
  have h := resolve?_stem_iff belowRoot (by decide) (by decide) belowRoot_sections hu hu₀
  exact ⟨hu, hu₀, h.mpr ⟨hhides, fun hd => absurd hd hdrive⟩, by decide +kernel⟩

/-- A query may take the tenant away. -/
theorem stem_changes_tenant :
    ¬ ∀ (s : Source) (text : String) (u u₀ : Url),
      (s.flag? mainSection "allowall").getD false = false → listsBackends s = true →
      (∀ id ∈ backendIds s, ∀ url secret, completeSection? s id = some (url, secret) →
        url.query = none ∧ url.fragment = none) →
      Url.ofText text = .ok u → Url.ofText u.stem = .ok u₀ →
        ((Registry.ofSource s).1.resolve? u).map (·.backend) =
          ((Registry.ofSource s).1.resolve? u₀).map (·.backend) := by
  intro h
  have hsame := h belowRoot "https://h/a?x" { urlOnH "/a" with query := "x" } (urlOnH "/a")
    (by decide) (by decide) belowRoot_sections (by decide +kernel) (by decide +kernel)
  revert hsame
  decide +kernel

end Tenancy

end Switchboard
