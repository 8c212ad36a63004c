import Switchboard.Proofs.Tenancy.Isolation
/-
  Reloading twice. A reload leaves a table that says what the new settings say, so a second reload
  of the same settings wants under each host key what stands there already. The entries of a row say
  different things, and each wanted one finds its own among them; hence no host changes
  (`find?_nextTable_of_same`), and an ascending table is told by what its look-ups find
  (`Directory.ext_find?`), so the whole table comes back, entry for entry (`nextTable_of_same`).

  The summary needs no count of its own: it accounts for the replacement of a table by itself, and
  there is only one such account (`Summary.Accounts.eq_of_same`).
-/
namespace Switchboard.Tenancy

open Switchboard.Settings (Source)

/-! ## The table -/

theorem HostTable.ascending_backends {t : HostTable Entry} :
    Directory.Ascending t.backends ↔ Directory.Ascending t := by
  unfold Directory.Ascending
  rw [show t.backends.map Prod.fst = t.map Prod.fst from names_backends t]

/-- A target that says what the current table says leaves it as it is, with the same entries. -/
theorem nextTable_of_same {current target : HostTable Entry}
    (hascending : Directory.Ascending current.backends)
    (hdistinct : ∀ host, (current.backends.row host).Nodup)
    (hsame : target.backends = current.backends) : nextTable current target = current := by
  apply Directory.ext_find?
  · rw [← HostTable.ascending_backends, backends_nextTable, hsame]
    exact hascending
  · exact HostTable.ascending_backends.mp hascending
  · intro host
    apply find?_nextTable_of_same (hdistinct host)
    rw [hsame]

/-! ## The summary -/

/-- The only account of a table that is replaced by itself: all of it is kept. -/
theorem Summary.Accounts.eq_of_same {s : Summary} {t : HostTable Backend} (h : s.Accounts t t) :
    s = ⟨t.values.length, 0, 0, []⟩ := by
  have hunchanged : s.isUnchanged = true :=
    h.unchanged.mpr ⟨fun _ => Iff.rfl, fun _ _ => Iff.rfl⟩
  simp only [isUnchanged, Bool.and_eq_true, beq_iff_eq, List.isEmpty_iff] at hunchanged
  obtain ⟨⟨hadded, hremoved⟩, hhosts⟩ := hunchanged
  have hkept : s.kept = t.values.length := by
    rw [← h.new_total, hadded, Nat.add_zero]
  obtain ⟨kept, added, removed, hostsRemoved⟩ := s
  dsimp only at hkept hadded hremoved hhosts
  rw [hkept, hadded, hremoved, hhosts]

/-! ## Reloads -/

/-- A run that goes on with one more reload. -/
theorem reloadAll_append_singleton (r : Registry) (run : List Source) (s : Source) :
    r.reloadAll (run ++ [s]) = ((r.reloadAll run).reload s).registry := by
  induction run generalizing r with
  | nil => rfl
  | cons t rest ih => exact ih (r.reload t).registry

theorem ascending_reloadAll (start : Source) (run : List Source) :
    Directory.Ascending ((Registry.ofSource start).1.reloadAll run).hosts.backends := by
  obtain ⟨placed, -, htable⟩ := placed_reloadAll start run
  rw [htable]
  exact (HostTable.kept_ofList placed).ascending

/-- **Repeated reloads change nothing.** After any run of reloads, let settings that list backends
    be taken over once. Taking them over again is applied, keeps every entry of the table, adds and
    removes none and drops no host. Every host has the very entries that it had, in their order,
    none of which is among those made for the second reload; and every URL belongs to the same entry
    as before, or to none. -/
theorem reload_repeated (start : Source) (run : List Source) (s : Source)
    (hlists : listsBackends s = true) :
    let r := (((Registry.ofSource start).1.reloadAll run).reload s).registry
    let again := r.reload s
    again.outcome = .applied ⟨r.hosts.values.length, 0, 0, []⟩ ∧
      again.registry.hosts = r.hosts ∧
      (∀ e ∈ r.hosts.values, ∀ x ∈ (stampedTable s r.nextStamp).values, e.stamp ≠ x.stamp) ∧
      ∀ u : Url, again.registry.resolve? u = r.resolve? u := by
  intro r again
  have hsays : r.hosts.backends = configuredTable s := backends_reload _ hlists
  have hreached : r = (Registry.ofSource start).1.reloadAll (run ++ [s]) :=
    (reloadAll_append_singleton _ run s).symm
  have htable : again.registry.hosts = r.hosts := by
    have hhosts : again.registry.hosts = nextTable r.hosts (stampedTable s r.nextStamp) := by
      unfold again Registry.reload
      rw [if_pos hlists]
    rw [hhosts]
    apply nextTable_of_same
    · rw [hreached]
      exact ascending_reloadAll start (run ++ [s])
    · rw [hreached]
      exact nodup_row_reloadAll start (run ++ [s])
    · rw [stampedTable_backends, hsays]
  refine ⟨?_, htable, ?_, ?_⟩
  · obtain ⟨summary, happlied, haccounts⟩ := reload_accounts start (run ++ [s]) s hlists
    rw [← hreached] at happlied haccounts
    rw [backends_reload r hlists, ← hsays] at haccounts
    have hsummary := haccounts.eq_of_same
    rw [HostTable.values_backends, List.length_map] at hsummary
    rw [← hsummary]
    exact happlied
  · intro e he x hx
    have hold : e.stamp < r.nextStamp := by
      rw [hreached] at he ⊢
      exact issued_reloadAll start (run ++ [s]) e he
    exact ne_of_lt (lt_of_lt_of_le hold (stamp_of_mem_stampedTable hx).1)
  · intro u
    have hlisted : again.registry.listed? u = r.listed? u :=
      listed?_congr (congrArg (·.find? u.hostKey) htable)
    rw [resolve?_eq_or, resolve?_eq_or, hlisted, fallback?_reload]

/-- Of the tenants that were there one leaves, one gets another secret and one stays; a second
    reload keeps the entries that the first one has brought, of which one is older than it. -/
theorem reload_repeated_tenants :
    let r := (((Registry.ofSource namedHost).1.reloadAll [threeTenants]).reload twoTenants).registry
    let again := r.reload twoTenants
    listsBackends twoTenants = true ∧ again.outcome = .applied ⟨2, 0, 0, []⟩ ∧
      again.registry.hosts = r.hosts ∧ r.hosts.values.map (·.stamp) = [4, 1] ∧
      again.registry.resolve? (urlOnH "/s/") = r.resolve? (urlOnH "/s/") ∧
      (r.resolve? (urlOnH "/s/")).map (·.backend.id) = some "stays" := by
  intro r again
  have hlists : listsBackends twoTenants = true := by decide
  obtain ⟨happlied, htable, -, hanswers⟩ :=
    reload_repeated namedHost [threeTenants] twoTenants hlists
  have hstamps : r.hosts.values.map (·.stamp) = [4, 1] := by decide +kernel
  have hlength : r.hosts.values.length = 2 := by
    rw [← List.length_map (·.stamp), hstamps]
    rfl
  rw [hlength] at happlied
  exact ⟨hlists, happlied, htable, hstamps, hanswers (urlOnH "/s/"), by decide +kernel⟩

end Switchboard.Tenancy
