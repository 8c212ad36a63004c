import Mathlib.Data.Finset.Max
import Mathlib.Data.List.Find
import Switchboard.Proofs.Tenancy.Runs
import Switchboard.Proofs.Tenancy.Scan
import Switchboard.Proofs.Tenancy.Summaries
/-
  Reloads that report no change. The summary counts backends and not their order, so such a reload
  keeps which URLs are allowed, but backends whose URLs overlap may have changed places, and then a
  URL may belong to another backend than before. `unchanged_reload_answers_iff` says exactly when
  it does not: if the URL of each backend still belongs to the backend it belonged to.

  The backends that claim a text are those that claim the URL of the longest of them
  (`claims_iff_of_longest`), so it is enough to ask for the URLs of the backends.
-/
namespace Switchboard.Tenancy

open Switchboard.Settings (Source)

/-! ## The longest claim -/

theorem exists_longest_claim {l : List Backend} {text : String}
    (h : ∃ b ∈ l, b.claims text = true) :
    ∃ b ∈ l, b.claims text = true ∧
      ∀ x ∈ l, x.claims text = true → x.url.toList.length ≤ b.url.toList.length := by
  have hne : (l.filter (·.claims text)).toFinset.Nonempty := by
    obtain ⟨b, hb, hclaims⟩ := h
    exact ⟨b, List.mem_toFinset.mpr (List.mem_filter.mpr ⟨hb, hclaims⟩)⟩
  obtain ⟨b, hb, hmax⟩ := Finset.exists_max_image _ (·.url.toList.length) hne
  obtain ⟨hmem, hclaims⟩ := List.mem_filter.mp (List.mem_toFinset.mp hb)
  refine ⟨b, hmem, hclaims, ?_⟩
  intro x hx hxclaims
  exact hmax x (List.mem_toFinset.mpr (List.mem_filter.mpr ⟨hx, hxclaims⟩))

/-- A backend with a URL no longer than that of a claiming one claims the text exactly if it claims
    that URL. -/
theorem claims_iff_of_longest {b x : Backend} {text : String} (hb : b.claims text = true)
    (hlen : x.claims text = true → x.url.toList.length ≤ b.url.toList.length) :
    x.claims text = true ↔ x.claims b.url = true := by
  have hbt : b.url.toList <+: text.toList := claims_iff_starts.mp hb
  have hown : x.claims b.url = true ↔ x.url.toList <+: b.url.toList := claims_iff_starts
  constructor
  · intro hx
    exact hown.mpr (List.prefix_of_prefix_length_le (claims_iff_starts.mp hx) hbt (hlen hx))
  · intro hx
    exact claims_iff_starts.mpr ((hown.mp hx).trans hbt)

/-- Two lists of the same backends that agree on the URLs of these agree on all texts. -/
theorem find?_claims_eq {old new : List Backend} (hsame : ∀ b, b ∈ old ↔ b ∈ new)
    (hown : ∀ b ∈ new, old.find? (·.claims b.url) = new.find? (·.claims b.url)) (text : String) :
    old.find? (·.claims text) = new.find? (·.claims text) := by
  by_cases h : ∃ b ∈ new, b.claims text = true
  · -- The longest claim stands for the text: both lists answer the text like its URL.
    obtain ⟨b, hb, hclaims, hlongest⟩ := exists_longest_claim h
    have hiff : ∀ x ∈ new, x.claims text = x.claims b.url := by
      intro x hx
      rw [Bool.eq_iff_iff]
      exact claims_iff_of_longest hclaims (hlongest x hx)
    calc old.find? (·.claims text)
        = old.find? (·.claims b.url) := List.find?_congr fun x hx => hiff x ((hsame x).mp hx)
      _ = new.find? (·.claims b.url) := hown b hb
      _ = new.find? (·.claims text) := (List.find?_congr hiff).symm
  · have hnone : ∀ x ∈ new, ¬ x.claims text = true := fun x hx hclaims => h ⟨x, hx, hclaims⟩
    rw [List.find?_eq_none.mpr hnone, List.find?_eq_none]
    exact fun x hx => hnone x ((hsame x).mp hx)

/-! ## Tables with the same backends -/

/-- The URL of each backend of the new table belongs to the same backend in both tables. -/
def AgreeOnOwnUrls (old new : HostTable Backend) : Prop :=
  ∀ host, ∀ b ∈ new.row host,
    (old.row host).find? (·.claims b.url) = (new.row host).find? (·.claims b.url)

theorem isSome_firstClaim?_eq {old new : HostTable Backend}
    (hsame : ∀ host b, b ∈ old.row host ↔ b ∈ new.row host) (u : Url) :
    (old.firstClaim? u).isSome = (new.firstClaim? u).isSome := by
  unfold HostTable.firstClaim?
  rw [Bool.eq_iff_iff, List.find?_isSome, List.find?_isSome]
  simp only [hsame]

/-- Tables with the same backends agree on all URLs exactly if they agree on those of the listed
    backends: a listed backend was made of a URL, and of its URL nothing else is asked for. -/
theorem firstClaim?_eq_iff {old : HostTable Backend} {s : Source}
    (hsame : ∀ host b, b ∈ old.row host ↔ b ∈ (configuredTable s).row host) :
    (∀ u, old.firstClaim? u = (configuredTable s).firstClaim? u) ↔
      AgreeOnOwnUrls old (configuredTable s) := by
  constructor
  · intro h host b hb
    -- The row of a listed backend is that of the URL it was made of, so this URL can be asked for.
    obtain ⟨id, -, url, secret, -, rfl, rfl⟩ := mem_row_configuredTable.mp hb
    exact h url
  · intro h u
    exact find?_claims_eq (hsame u.hostKey) (h u.hostKey) u.normalized

/-! ## Reloads -/

/-- What stands in for a missing claim hides no difference if the same claims are missing. -/
theorem or_eq_or_iff {x y : Option Backend} (fallback : Option Backend)
    (h : x.isSome = y.isSome) : y.or fallback = x.or fallback ↔ x = y := by
  cases x with
  | none =>
    cases y with
    | none => exact ⟨fun _ => rfl, fun _ => rfl⟩
    | some b => cases h
  | some a =>
    cases y with
    | none => cases h
    | some b => exact ⟨Eq.symm, Eq.symm⟩

theorem outcome_applied {r : Registry} {s : Source} {summary : Summary}
    (h : (r.reload s).outcome = .applied summary) :
    listsBackends s = true ∧ summary = changes r.hosts (stampedTable s r.nextStamp) := by
  unfold Registry.reload at h
  split at h
  · next hlists => exact ⟨hlists, (Outcome.applied.inj h).symm⟩
  · cases h

/-- **Reloads that report no change.** A reload that has been applied and reports no change keeps
    which URLs are allowed. It keeps the backend of every URL exactly if the URL of each listed
    backend belongs to the same backend in the old table and in the new one. -/
theorem unchanged_reload_answers_iff (r : Registry) (s : Source) (summary : Summary)
    (happlied : (r.reload s).outcome = .applied summary) (hun : summary.isUnchanged = true) :
    (∀ u, (r.reload s).registry.allows (some u) = r.allows (some u)) ∧
      ((∀ u, ((r.reload s).registry.resolve? u).map (·.backend) =
          (r.resolve? u).map (·.backend)) ↔
        AgreeOnOwnUrls r.hosts.backends (configuredTable s)) := by
  obtain ⟨hlists, rfl⟩ := outcome_applied happlied
  have hsame : ∀ host b, b ∈ r.hosts.backends.row host ↔ b ∈ (configuredTable s).row host := by
    intro host b
    rw [← stampedTable_backends s r.nextStamp]
    exact mem_row_of_isUnchanged hun host b
  have hnew : ∀ u, ((r.reload s).registry.resolve? u).map (·.backend) =
      ((configuredTable s).firstClaim? u).or (r.fallback?.map (·.backend)) := by
    intro u
    rw [backend_resolve?, backends_reload r hlists, fallback?_reload]
  have hsome := isSome_firstClaim?_eq hsame
  refine ⟨?_, ?_⟩
  · intro u
    rw [allows_some, allows_some, hnew, backend_resolve?, Option.isSome_or, Option.isSome_or, hsome]
  · rw [← firstClaim?_eq_iff hsame]
    refine forall_congr' fun u => ?_
    rw [hnew, backend_resolve?]
    exact or_eq_or_iff _ (hsome u)

/-- Two backends, one of which has the URLs of the other, listed in some order. -/
def overlapping (order : String) : Source := textSettings
  [("backend", [("backends", order)]),
    ("inner", [("url", "https://h/a/b/"), ("secret", "second")]),
    ("outer", [("url", "https://h/a/"), ("secret", "first")])]

/-- The registry of the overlapping backends, the outer one first. -/
def outerFirst : Registry := (Registry.ofSource (overlapping "outer, inner")).1

theorem unchanged_reload_answers_iff_overlapping :
    (outerFirst.reload (overlapping "inner, outer")).outcome = .applied ⟨2, 0, 0, []⟩ ∧
      (Summary.mk 2 0 0 []).isUnchanged = true ∧
      (∀ u, (outerFirst.reload (overlapping "inner, outer")).registry.allows (some u) =
        outerFirst.allows (some u)) ∧
      ¬ AgreeOnOwnUrls outerFirst.hosts.backends (configuredTable (overlapping "inner, outer")) := by
  have happlied : (outerFirst.reload (overlapping "inner, outer")).outcome =
      .applied ⟨2, 0, 0, []⟩ := by
    decide +kernel
  obtain ⟨hallows, hiff⟩ := unchanged_reload_answers_iff outerFirst _ _ happlied rfl
  refine ⟨happlied, rfl, hallows, ?_⟩
  intro hagree
  have hsame := hiff.mpr hagree (urlOnH "/a/b/")
  revert hsame
  decide +kernel

/-- A reload that reports no change may give a URL to another backend. -/
theorem unchanged_reload_changes :
    ¬ ∀ (start : Source) (run : List Source) (s : Source) (summary : Summary),
      (((Registry.ofSource start).1.reloadAll run).reload s).outcome = .applied summary →
      summary.isUnchanged = true →
      ∀ u, ((((Registry.ofSource start).1.reloadAll run).reload s).registry.resolve? u).map
          (·.backend) =
        (((Registry.ofSource start).1.reloadAll run).resolve? u).map (·.backend) := by
  intro h
  have hsame := h (overlapping "outer, inner") [] (overlapping "inner, outer") ⟨2, 0, 0, []⟩
    (by decide +kernel) rfl (urlOnH "/a/b/")
  revert hsame
  decide +kernel

end Switchboard.Tenancy
