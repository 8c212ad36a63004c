import Switchboard.Proofs.Tenancy.Runs
/-
  Empty secrets. A listed backend never has one, since its section would be incomplete, and so
  reloads bring none in. The allowed hosts are the one way: they share the common secret, which
  nobody checks. `emptySecret_iff` says exactly when a URL gets an empty secret from a registry
  that does not allow all hosts, after any run of reloads.
-/
namespace Switchboard.Tenancy

open Switchboard.Settings (Source)

/-- No listed backend has an empty secret. -/
theorem secret_ne_of_firstClaim? {s : Source} {u : Url} {b : Backend}
    (h : (configuredTable s).firstClaim? u = some b) : b.secret.bytes ≠ [] := by
  have hmem : b ∈ (configuredTable s).row u.hostKey := List.mem_of_find?_eq_some h
  obtain ⟨id, -, url, secret, hsection, -, rfl⟩ := mem_row_configuredTable.mp hmem
  intro hnil
  exact completeSection?_secret_ne hsection (bytes_ofText_eq_nil.mp hnil)

/-- The URL has an allowed host, the allowed hosts share an empty secret, and no settings have
    listed any backends, neither those of the start nor later ones. -/
structure SharesEmptySecret (start : Source) (run : List Source) (u : Url) : Prop where
  notListed : listsBackends start = false
  neverListed : ∀ s ∈ run, listsBackends s = false
  noSecret : (start.text? mainSection "secret").getD "" = ""
  allowed : ∃ raw, Registry.allowedSetting start = some raw ∧ u.hostKey ∈ allowedHosts raw

/-- What a registry that does not allow all hosts claims for a URL at its start has an empty secret
    exactly if the URL has an allowed host and the shared secret is empty. -/
theorem emptySecret_start_iff (start : Source) (hall : allowsAllHosts start = false) (u : Url) :
    (∃ b, (Registry.ofSource start).1.hosts.backends.firstClaim? u = some b ∧
        b.secret.bytes = []) ↔ SharesEmptySecret start [] u := by
  cases hlists : listsBackends start with
  | true =>
    rw [ofSource_of_listsBackends hall hlists, backends_ofBackends]
    constructor
    · rintro ⟨b, hb, hnil⟩
      exact absurd hnil (secret_ne_of_firstClaim? hb)
    · intro h
      cases hlists.symm.trans h.notListed
  | false =>
    cases hallowed : Registry.allowedSetting start with
    | none =>
      rw [ofSource_of_nothing hall hlists hallowed]
      constructor
      · rintro ⟨b, hb, -⟩
        cases hb
      · intro h
        obtain ⟨raw, hraw, -⟩ := h.allowed
        cases hallowed.symm.trans hraw
    | some raw =>
      rw [ofSource_of_allowedSetting hall hlists hallowed, firstClaim?_ofAllowed]
      constructor
      · rintro ⟨b, hb, hnil⟩
        obtain ⟨hhost, hb⟩ := Option.ite_none_right_eq_some.mp hb
        cases hb
        refine ⟨hlists, fun s hs => ?_, bytes_ofText_eq_nil.mp hnil, raw, hallowed, hhost⟩
        cases hs
      · intro h
        obtain ⟨raw', hraw, hhost⟩ := h.allowed
        cases hallowed.symm.trans hraw
        exact ⟨_, if_pos hhost, bytes_ofText_eq_nil.mpr h.noSecret⟩

/-- After a run of reloads the same holds as at the start, if none of its settings list backends;
    otherwise no claim has an empty secret. -/
theorem emptySecret_reloadAll_iff (start : Source) (hall : allowsAllHosts start = false)
    (run : List Source) (u : Url) :
    (∃ b, (((Registry.ofSource start).1.reloadAll run).resolve? u).map (·.backend) = some b ∧
        b.secret.bytes = []) ↔ SharesEmptySecret start run u := by
  rw [backend_resolve?_reloadAll, fallback?_ofSource hall, Option.map_none, Option.or_none]
  rcases settledTable_cases (Registry.ofSource start).1.hosts.backends run with
    ⟨htable, hnever⟩ | ⟨s, hs, hlists, htable⟩
  · rw [htable, emptySecret_start_iff start hall u]
    exact ⟨fun h => { h with neverListed := hnever },
      fun h => { h with neverListed := fun s hs => nomatch hs }⟩
  · rw [htable]
    constructor
    · rintro ⟨b, hb, hnil⟩
      exact absurd hnil (secret_ne_of_firstClaim? hb)
    · intro h
      cases hlists.symm.trans (h.neverListed s hs)

/-- **When a URL gets an empty secret.** A registry that does not allow all hosts, after any run of
    reloads, has a backend with an empty secret for a URL exactly if the URL has one of the allowed
    hosts, these share an empty secret, and no settings have listed backends so far. -/
theorem emptySecret_iff (start : Source)
    (hall : (start.flag? mainSection "allowall").getD false = false) (run : List Source) (u : Url) :
    let r := (Registry.ofSource start).1.reloadAll run
    ((∃ e, r.resolve? u = some e ∧ e.backend.secret.bytes = []) ↔ SharesEmptySecret start run u) ∧
      (r.secret? (some u) = some ⟨[]⟩ ↔ SharesEmptySecret start run u) := by
  intro r
  have hiff := emptySecret_reloadAll_iff start hall run u
  constructor
  · rw [← hiff]
    simp only [Option.map_eq_some_iff]
    constructor
    · rintro ⟨e, he, hnil⟩
      exact ⟨e.backend, ⟨e, he, rfl⟩, hnil⟩
    · rintro ⟨b, ⟨e, he, rfl⟩, hnil⟩
      exact ⟨e, he, hnil⟩
  · rw [← hiff, secret?_some, Option.map_eq_some_iff]
    constructor
    · rintro ⟨b, hb, hsecret⟩
      exact ⟨b, hb, congrArg Secret.bytes hsecret⟩
    · rintro ⟨b, hb, hnil⟩
      exact ⟨b, hb, congrArg Secret.mk hnil⟩

/-- Settings that allow the host `h` and have no secret. -/
def unsecured : Source := textSettings [("backend", [("allowed", "h")])]

theorem emptySecret_iff_unsecured :
    let r := (Registry.ofSource unsecured).1.reloadAll [unsecured]
    (unsecured.flag? mainSection "allowall").getD false = false ∧
      (∃ e, r.resolve? (urlOnH "/") = some e ∧ e.backend.secret.bytes = []) ∧
      r.secret? (some (urlOnH "/")) = some ⟨[]⟩ ∧
      r.secret? (some ⟨"https", some ⟨"", .name "g", none⟩, "/", none, none⟩) ≠ some ⟨[]⟩ := by
  intro r
  have hall : (unsecured.flag? mainSection "allowall").getD false = false := by decide
  have hshares : SharesEmptySecret unsecured [unsecured] (urlOnH "/") := by
    refine ⟨by decide, ?_, by decide, "h", by decide, by decide +kernel⟩
    intro s hs
    rw [List.mem_singleton.mp hs]
    decide
  refine ⟨hall, (emptySecret_iff unsecured hall _ _).1.mpr hshares,
    (emptySecret_iff unsecured hall _ _).2.mpr hshares, ?_⟩
  intro hempty
  obtain ⟨raw, hraw, hhost⟩ := ((emptySecret_iff unsecured hall _ _).2.mp hempty).allowed
  have hh : Registry.allowedSetting unsecured = some "h" := by decide
  cases hh.symm.trans hraw
  revert hhost
  decide +kernel

/-- Not every secret outside of registries that allow all hosts has bytes. -/
theorem emptySecret_exists :
    ¬ ∀ start : Source, (start.flag? mainSection "allowall").getD false = false →
      ∀ (run : List Source) (u : Url),
        (∀ e, ((Registry.ofSource start).1.reloadAll run).resolve? u = some e →
          e.backend.secret.bytes ≠ []) ∧
        ((Registry.ofSource start).1.reloadAll run).secret? (some u) ≠ some ⟨[]⟩ := by
  intro h
  have hsecret : ((Registry.ofSource unsecured).1.reloadAll []).secret? (some (urlOnH "/")) =
      some ⟨[]⟩ := by
    decide +kernel
  exact (h unsecured (by decide) [] (urlOnH "/")).2 hsecret

end Switchboard.Tenancy
