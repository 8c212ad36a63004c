import Switchboard.Proofs.Tenancy.WellFormed
import Switchboard.Proofs.Url.Hosts
/-
  Hosts allowed by name. An entry of the list stands for the host key of the URL that it makes behind
  `https://` (`mem_allowedHosts`); such a URL always has a host, so no key gets lost. A registry of
  allowed hosts has the shared entry under these keys and nothing else, which
  `resolve?_allowedHosts` reads off for every URL: the host key alone decides.
-/
namespace Switchboard.Tenancy

open Switchboard.Settings (Source)

/-- The entries of a list of allowed hosts: what stands between the commas, without blanks around it,
    up to its first slash. -/
def allowedEntries (raw : String) : List (List Char) :=
  (trimmedPieces raw).map fun piece => piece.takeWhile (· ≠ '/')

theorem fst_cut (separator : Char) (s : List Char) :
    (Text.cut separator s).1 = s.takeWhile (· ≠ separator) := by
  induction s with
  | nil => rfl
  | cons c r ih =>
    rw [Text.cut]
    by_cases h : c = separator
    · rw [if_pos h, List.takeWhile_cons_of_neg (by simp [h])]
    · rw [if_neg h, List.takeWhile_cons_of_pos (by simp [h]), ← ih]

theorem fst_bareHost (piece : List Char) : (bareHost piece).1 = piece.takeWhile (· ≠ '/') := by
  rw [← fst_cut]
  unfold bareHost
  rcases Text.cut '/' piece with ⟨host, _ | path⟩ <;> rfl

/-- A piece of the list gives the host key of the URL that its entry makes behind `https://`. -/
theorem fst_allowedHost_eq_some_iff {piece : List Char} {key : String} :
    (allowedHost piece).1 = some key ↔
      piece.takeWhile (· ≠ '/') ≠ [] ∧
        ∃ v, Url.ofText (hostUrl (piece.takeWhile (· ≠ '/'))) = .ok v ∧ key = v.hostKey := by
  rw [← fst_bareHost]
  unfold allowedHost
  dsimp only
  split
  · next hempty => simp [List.isEmpty_iff.mp hempty]
  · next hne =>
    rw [List.isEmpty_iff] at hne
    cases hread : Url.ofText (hostUrl (bareHost piece).1) with
    | error fault => simp
    | ok v =>
      have hkey : v.hostKey ≠ "" := hostKey_ne (Url.isSome_host?_of_https hread)
      simp [nonEmpty?_eq, Option.filter, hkey, hne, eq_comm]

theorem mem_allowedHosts {raw key : String} :
    key ∈ allowedHosts raw ↔
      ∃ e ∈ allowedEntries raw, e ≠ [] ∧ ∃ v, Url.ofText (hostUrl e) = .ok v ∧ key = v.hostKey := by
  unfold allowedHosts allowedEntries
  rw [Text.mem_distinct, List.mem_filterMap]
  simp only [fst_allowedHost_eq_some_iff, List.mem_map, exists_exists_and_eq_and]

/-- A registry of allowed hosts answers the shared entry for the URLs of these hosts, and none for
    all others. -/
theorem resolve?_ofAllowed (s : Source) (raw : String) (u : Url) :
    (Registry.ofAllowed s raw).1.resolve? u =
      if u.hostKey ∈ allowedHosts raw then (Registry.ofAllowed s raw).1.shared else none := by
  have hnodup : (allowedHosts raw).Nodup := Text.nodup_distinct _
  have hfallback : (Registry.ofAllowed s raw).1.fallback? = none := by
    unfold Registry.fallback?
    rw [allowAll_ofAllowed, if_neg Bool.false_ne_true]
  rw [resolve?_eq_or, hfallback, Option.or_none]
  unfold Registry.listed?
  rw [hosts_ofAllowed, HostTable.row_ofList_const hnodup, shared_ofAllowed]
  split
  · next hhost =>
    rw [if_neg (List.ne_nil_of_mem hhost)]
    exact List.find?_cons_of_pos (claims_shared _ u.normalized)
  · rfl

/-- **Hosts allowed by name.** Of settings that neither allow all hosts nor list backends, and name
    some hosts, exactly those URLs belong to an entry whose host key is that of an entry of the list,
    read as a host behind `https://`. They all belong to the shared entry, which has the common
    secret; a URL without a host belongs to none. -/
theorem resolve?_allowedHosts (s : Source) (raw : String)
    (hall : (s.flag? mainSection "allowall").getD false = false) (hlists : listsBackends s = false)
    (hraw : s.text? mainSection "allowed" = some raw) (hblank : isBlankText raw = false) (u : Url) :
    let r := (Registry.ofSource s).1
    ((r.resolve? u).isSome = true ↔
        ∃ e ∈ allowedEntries raw, e ≠ [] ∧
          ∃ v, Url.ofText (hostUrl e) = .ok v ∧ u.hostKey = v.hostKey) ∧
      (∀ x, r.resolve? u = some x →
        r.shared = some x ∧ x.backend = ⟨"compat", "", r.commonSecret, true⟩) ∧
      (u.host? = none → r.resolve? u = none) := by
  intro r
  have hallowed : Registry.allowedSetting s = some raw := by
    unfold Registry.allowedSetting nonBlank?
    rw [hraw, Option.filter_some, if_pos (by rw [hblank]; rfl)]
  have hr : r = (Registry.ofAllowed s raw).1 := ofSource_of_allowedSetting hall hlists hallowed
  have hcommon : r.commonSecret = Registry.sharedSecret s := by
    rw [hr]
    unfold Registry.ofAllowed
    dsimp only
    split <;> rfl
  rw [hcommon, hr, resolve?_ofAllowed, shared_ofAllowed, ← mem_allowedHosts]
  by_cases hhost : u.hostKey ∈ allowedHosts raw
  · rw [if_pos hhost, if_neg (List.ne_nil_of_mem hhost)]
    refine ⟨iff_of_true rfl hhost, ?_, ?_⟩
    · intro x hx
      cases hx
      exact ⟨rfl, rfl⟩
    · intro hnone
      have hkey : u.hostKey = "" := by
        unfold Url.hostKey
        rw [hnone]
      exact absurd hkey (ne_of_mem_allowedHosts hhost)
  · rw [if_neg hhost]
    exact ⟨iff_of_false Bool.false_ne_true hhost, nofun, fun _ => rfl⟩

/-- Settings that allow a host by its name in capitals with the port that `https` implies, one with a
    path behind it, and something that is no host. -/
def severalNames : Source := textSettings
  [("backend", [("allowed", " G:443, h/x,, ["), ("secret", "common")])]

/-- A URL of some host. -/
def urlOf (scheme host : String) (port : Option Nat) : Url :=
  ⟨scheme, some ⟨"", .name host, port⟩, "/any/path", some "q", none⟩

theorem resolve?_allowedHosts_severalNames :
    let r := (Registry.ofSource severalNames).1
    (severalNames.flag? mainSection "allowall").getD false = false ∧
      listsBackends severalNames = false ∧ isBlankText " G:443, h/x,, [" = false ∧
      (r.resolve? (urlOf "http" "g" none)).isSome = true ∧
      (∀ x, r.resolve? (urlOf "wss" "h" none) = some x → x.backend.secret = .ofText "common") ∧
      (r.resolve? (urlOf "https" "h" (some 8443))).isSome = false ∧
      r.resolve? ⟨"mailto", none, "h", none, none⟩ = none := by
  intro r
  have hall : (severalNames.flag? mainSection "allowall").getD false = false := by decide
  have hlists : listsBackends severalNames = false := by decide
  have hblank : isBlankText " G:443, h/x,, [" = false := by decide
  have h := resolve?_allowedHosts severalNames " G:443, h/x,, [" hall hlists rfl hblank
  have hread : (Url.ofText (hostUrl "G:443".toList)).toOption =
      some ⟨"https", some ⟨"", .name "g", none⟩, "/", none, none⟩ := by
    decide +kernel
  refine ⟨hall, hlists, hblank, (h _).1.mpr ⟨"G:443".toList, by decide, by decide, ?_⟩, ?_,
    by decide +kernel, (h _).2.2 rfl⟩
  · cases hof : Url.ofText (hostUrl "G:443".toList) with
    | error fault =>
      rw [hof] at hread
      cases hread
    | ok v =>
      rw [hof] at hread
      cases hread
      exact ⟨_, rfl, by decide⟩
  · intro x hx
    rw [((h _).2.1 x hx).2]
    decide +kernel

end Switchboard.Tenancy
