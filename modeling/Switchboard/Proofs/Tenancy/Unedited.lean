import Switchboard.Proofs.Tenancy.Runs
/-
  Reloading unedited settings, those that a registry was started with. Start and reload do not look
  at the same settings first: a registry that allows all hosts ignores the listed backends at its
  start, but a reload takes them over (`Overtaken`). `reload_unedited_iff` says that nothing else can
  make a difference: a reload of the start's settings keeps which URLs are allowed, it keeps the
  backend of every URL that is not overtaken, and changes the backend of every one that is.
-/
namespace Switchboard.Tenancy

open Switchboard.Settings (Source)

/-- No listed backend stands for hosts without a backend of their own. -/
theorem compat_of_firstClaim? {s : Source} {u : Url} {b : Backend}
    (h : (configuredTable s).firstClaim? u = some b) : b.compat = false := by
  have hmem : b ∈ (configuredTable s).row u.hostKey := List.mem_of_find?_eq_some h
  obtain ⟨id, -, url, secret, -, -, rfl⟩ := mem_row_configuredTable.mp hmem
  rfl

/-- The settings allow all hosts and list backends too, and the listed one is the first that claims
    the URL. -/
structure Overtaken (s : Source) (u : Url) (b : Backend) : Prop where
  allowed : allowsAllHosts s = true
  listed : listsBackends s = true
  claimed : (configuredTable s).firstClaim? u = some b

/-- An overtaken URL goes from the shared backend to the one that overtakes it. -/
theorem backend_resolve?_of_overtaken {s : Source} {u : Url} {b : Backend} (h : Overtaken s u b) :
    let r := (Registry.ofSource s).1
    (r.resolve? u).map (·.backend) = some (.shared (Registry.sharedSecret s)) ∧
      ((r.reload s).registry.resolve? u).map (·.backend) = some b := by
  intro r
  have hr : r = (Registry.ofAllowAll s).1 := ofSource_of_allowsAllHosts h.allowed
  rw [hr]
  refine ⟨rfl, ?_⟩
  rw [backend_resolve?, backends_reload _ h.listed, h.claimed, Option.some_or]

/-- A URL that is not overtaken keeps its backend. -/
theorem backend_resolve?_of_not_overtaken {s : Source} {u : Url} (h : ∀ b, ¬ Overtaken s u b) :
    let r := (Registry.ofSource s).1
    ((r.reload s).registry.resolve? u).map (·.backend) = (r.resolve? u).map (·.backend) := by
  intro r
  cases hlists : listsBackends s with
  | false => rw [reload_of_not_listsBackends r hlists]
  | true =>
    rw [backend_resolve?, backend_resolve?, backends_reload r hlists, fallback?_reload]
    congr 1
    change _ = (Registry.ofSource s).1.hosts.backends.firstClaim? u
    cases hall : allowsAllHosts s with
    | false => rw [ofSource_of_listsBackends hall hlists, backends_ofBackends]
    | true =>
      -- At the start the table is empty, and without an overtaking backend nothing is claimed.
      rw [ofSource_of_allowsAllHosts hall]
      exact Option.eq_none_iff_forall_ne_some.mpr fun b hb => h b ⟨hall, hlists, hb⟩

/-- **Reloading unedited settings.** A registry whose start's settings are reloaded keeps which URLs
    are allowed. The backend of a URL stays the same exactly if the URL is not overtaken, and its
    secret exactly if it is not overtaken by a backend with another secret than the shared one. -/
theorem reload_unedited_iff (s : Source) (u : Url) :
    let r := (Registry.ofSource s).1
    let after := (r.reload s).registry
    after.allows (some u) = r.allows (some u) ∧
      ((after.resolve? u).map (·.backend) = (r.resolve? u).map (·.backend) ↔
        ¬ ∃ b, Overtaken s u b) ∧
      (after.secret? (some u) = r.secret? (some u) ↔
        ¬ ∃ b, Overtaken s u b ∧ b.secret ≠ Registry.sharedSecret s) := by
  intro r after
  rw [allows_some, allows_some, secret?_some, secret?_some]
  by_cases h : ∃ b, Overtaken s u b
  · obtain ⟨b, hb⟩ := h
    obtain ⟨hbefore, hafter⟩ := backend_resolve?_of_overtaken hb
    have hunique : ∀ b', Overtaken s u b' → b' = b := fun b' hb' =>
      Option.some.inj (hb'.claimed.symm.trans hb.claimed)
    rw [hbefore, hafter]
    refine ⟨rfl, iff_of_false ?_ (not_not_intro ⟨b, hb⟩), ?_⟩
    · -- A listed backend differs from the shared one at least in what it stands for.
      intro heq
      have hcompat := congrArg Backend.compat (Option.some.inj heq)
      rw [compat_of_firstClaim? hb.claimed] at hcompat
      cases hcompat
    · rw [Option.map_some, Option.map_some, Option.some_inj]
      constructor
      · rintro hsecret ⟨b', hb', hne⟩
        rw [hunique b' hb'] at hne
        exact hne hsecret
      · intro hnone
        exact Decidable.byContradiction fun hne => hnone ⟨b, hb, hne⟩
  · have hnot : ∀ b, ¬ Overtaken s u b := fun b hb => h ⟨b, hb⟩
    rw [show (after.resolve? u).map (·.backend) = _ from backend_resolve?_of_not_overtaken hnot]
    refine ⟨rfl, iff_of_true rfl h, iff_of_true rfl ?_⟩
    rintro ⟨b, hb, -⟩
    exact hnot b hb

/-- Settings that allow all hosts and list a backend for the host `h`. -/
def openAndListed : Source := textSettings
  [("a", [("secret", "own"), ("url", "https://h/")]),
    ("backend", [("allowall", "true"), ("backends", "a"), ("secret", "common")])]

/-- Reloading the settings of the start may change which backend and which secret a URL has. -/
theorem reload_unedited_changes :
    ¬ ∀ (s : Source) (u : Url),
      let r := (Registry.ofSource s).1
      let after := (r.reload s).registry
      (after.resolve? u).map (·.backend) = (r.resolve? u).map (·.backend) ∧
        after.allows (some u) = r.allows (some u) ∧ after.secret? (some u) = r.secret? (some u) := by
  intro h
  have hsecret := (h openAndListed (urlOnH "/")).2.2
  revert hsecret
  decide +kernel

end Switchboard.Tenancy
