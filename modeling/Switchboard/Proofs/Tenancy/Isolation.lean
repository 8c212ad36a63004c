import Switchboard.Proofs.Tenancy.Accounting
/-
  Hosts do not see each other's reloads. What a reload puts under a host key is made from the row
  that stood there and the row that is wanted there (`find?_nextTable`), and from nothing else. The
  entries of a row say different things, so each wanted one finds its own among them; if the wanted
  row says what the old one says, the old one comes back, entry for entry (`merged_eq_existing`).

  That these are the same entries and not others that look alike is told by their stamps: all
  entries of a table have stamps that were given out (`issued_reloadAll`), and a reload brings in
  new ones.
-/
namespace Switchboard.Tenancy

open Switchboard.Settings (Source)

/-! ## One row -/

/-- Among entries that say different things, a wanted backend finds the entry that has it. -/
theorem sameBackend?_of_mem {existing : List Entry}
    (hdistinct : (existing.map (·.backend)).Nodup) {e w : Entry} (he : e ∈ existing)
    (hbackend : e.backend = w.backend) : sameBackend? existing w = some e := by
  have hsome : (sameBackend? existing w).isSome = true := by
    rw [sameBackend?_isSome_iff, ← hbackend]
    exact List.mem_map_of_mem he
  obtain ⟨x, hx⟩ := Option.isSome_iff_exists.mp hsome
  have hmem : x ∈ existing := List.mem_of_find?_eq_some hx
  have hsame : x.backend = e.backend := (backend_of_sameBackend? hx).trans hbackend.symm
  rw [hx, List.inj_on_of_nodup_map hdistinct hmem he hsame]

/-- A wanted row that says what the existing one says brings the existing one back. -/
theorem merged_eq_existing {existing wanted : List Entry}
    (hdistinct : (existing.map (·.backend)).Nodup)
    (hsame : wanted.map (·.backend) = existing.map (·.backend)) :
    merged existing wanted = existing := by
  have hlength : wanted.length = existing.length := by
    simpa using congrArg List.length hsame
  unfold merged
  apply List.ext_getElem
  · rw [List.length_map, hlength]
  · intro i hi hi'
    have hwanted : i < wanted.length := by omega
    have hbackend : existing[i].backend = wanted[i].backend := by
      have hget := congrArg (fun l => l[i]?) hsame
      simpa [hwanted, hi'] using hget.symm
    rw [List.getElem_map, sameBackend?_of_mem hdistinct (List.getElem_mem hi') hbackend]
    rfl

theorem mem_of_mem_merged {existing wanted : List Entry} {e : Entry}
    (h : e ∈ merged existing wanted) : e ∈ existing ∨ e ∈ wanted := by
  unfold merged at h
  obtain ⟨w, hw, rfl⟩ := List.mem_map.mp h
  cases hfound : sameBackend? existing w with
  | none => exact .inr hw
  | some x => exact .inl (List.mem_of_find?_eq_some hfound)

/-! ## All rows -/

namespace HostTable

theorem find?_backends (t : HostTable Entry) (host : String) :
    t.backends.find? host = (t.find? host).map fun row => row.map (·.backend) :=
  Directory.find?_map (fun _ => List.map Entry.backend) host t

theorem row_of_find? {α : Type} {t : HostTable α} {host : String} {row : List α}
    (h : t.find? host = some row) : t.row host = row := by
  unfold HostTable.row
  rw [h]
  rfl

theorem mem_values_of_mem_row {α : Type} {t : HostTable α} {host : String} {a : α}
    (h : a ∈ t.row host) : a ∈ t.values := by
  obtain ⟨row, hrow, ha⟩ := mem_row_iff.mp h
  exact List.mem_flatMap.mpr ⟨(host, row), Directory.mem_of_find? hrow, ha⟩

end HostTable

/-- What a reload puts under a host key is made from what stood and what is wanted there. -/
theorem find?_nextTable (current target : HostTable Entry) (host : String) :
    (nextTable current target).find? host =
      (target.find? host).map (merged (current.row host)) :=
  Directory.find?_map (fun name wanted => merged (current.row name) wanted) host target

/-- Every entry of a replacement stood in the table before or is a wanted one. -/
theorem mem_values_nextTable {current target : HostTable Entry} {e : Entry}
    (h : e ∈ (nextTable current target).values) : e ∈ current.values ∨ e ∈ target.values := by
  obtain ⟨p, hp, he⟩ := List.mem_flatMap.mp h
  obtain ⟨q, hq, rfl⟩ := List.mem_map.mp hp
  rcases mem_of_mem_merged he with hold | hnew
  · exact .inl (HostTable.mem_values_of_mem_row hold)
  · exact .inr (List.mem_flatMap.mpr ⟨q, hq, hnew⟩)

/-- A host of which both tables say the same keeps what the current one has. -/
theorem find?_nextTable_of_same {current target : HostTable Entry} {host : String}
    (hdistinct : (current.backends.row host).Nodup)
    (hsame : target.backends.find? host = current.backends.find? host) :
    (nextTable current target).find? host = current.find? host := by
  rw [HostTable.find?_backends, HostTable.find?_backends] at hsame
  rw [find?_nextTable]
  cases hcurrent : current.find? host with
  | none =>
    rw [hcurrent] at hsame
    rw [Option.map_eq_none_iff.mp hsame]
    rfl
  | some existing =>
    rw [hcurrent] at hsame
    obtain ⟨wanted, hwanted, hbackends⟩ := Option.map_eq_some_iff.mp hsame
    have hrow : current.row host = existing := HostTable.row_of_find? hcurrent
    rw [HostTable.row_backends, hrow] at hdistinct
    rw [hwanted, hrow, Option.map_some, merged_eq_existing hdistinct hbackends]

/-! ## Stamps -/

/-- Every entry of the table has a stamp that was given out before. -/
def Registry.Issued (r : Registry) : Prop := ∀ e ∈ r.hosts.values, e.stamp < r.nextStamp

theorem stamp_of_mem_stamped {first : Nat} {placed : List Placed} {p : String × Entry}
    (h : p ∈ stamped first placed) :
    first ≤ p.2.stamp ∧ p.2.stamp < first + placed.length := by
  induction placed generalizing first with
  | nil => cases h
  | cons q rest ih =>
    rw [List.length_cons]
    rcases List.mem_cons.mp h with rfl | h
    · dsimp only
      omega
    · have hrest := ih h
      omega

/-- The entries of new settings have stamps of their own. -/
theorem stamp_of_mem_stampedTable {s : Source} {first : Nat} {e : Entry}
    (h : e ∈ (stampedTable s first).values) :
    first ≤ e.stamp ∧ e.stamp < first + (placedBackends s).length := by
  obtain ⟨p, hp, rfl⟩ := List.mem_map.mp ((HostTable.perm_values_ofList _).mem_iff.mp h)
  exact stamp_of_mem_stamped hp

theorem issued_ofSource (s : Source) : (Registry.ofSource s).1.Issued := by
  unfold Registry.Issued
  rcases ofSource_cases s with hempty | hlisted | ⟨raw, hallowed⟩
  · rw [hempty]
    exact nofun
  · rw [hlisted, hosts_ofBackends]
    intro e he
    have hstamp := (stamp_of_mem_stampedTable he).2
    rwa [Nat.zero_add] at hstamp
  · rw [hallowed]
    intro e he
    obtain ⟨p, hp, he⟩ := List.mem_flatMap.mp he
    obtain ⟨hrow, -⟩ := row_shared_ofAllowed hp
    rw [hrow, List.mem_singleton] at he
    subst he
    unfold Registry.ofAllowed at hp ⊢
    dsimp only at hp ⊢
    split at hp
    · cases hp
    · next hne =>
      rw [if_neg hne]
      exact Nat.one_pos

/-- A reload gives out the stamps that it uses. -/
theorem issued_reload {r : Registry} (h : r.Issued) (s : Source) :
    (r.reload s).registry.Issued := by
  cases hlists : listsBackends s with
  | false => rwa [reload_of_not_listsBackends r hlists]
  | true =>
    have hnext : (r.reload s).registry.nextStamp = r.nextStamp + (placedBackends s).length := by
      unfold Registry.reload
      rw [if_pos hlists]
    unfold Registry.Issued
    rw [hosts_reload r hlists, hnext]
    intro e he
    rcases mem_values_nextTable he with hold | hnew
    · exact Nat.lt_add_right _ (h e hold)
    · exact (stamp_of_mem_stampedTable hnew).2

theorem issued_reloadAll (start : Source) (run : List Source) :
    ((Registry.ofSource start).1.reloadAll run).Issued :=
  reloadAll_induction (P := Registry.Issued) (fun _ s hr => issued_reload hr s)
    (issued_ofSource start) run

/-! ## Isolation -/

/-- No backend stands twice under a host key, after any run of reloads. -/
theorem nodup_row_reloadAll (start : Source) (run : List Source) (host : String) :
    (((Registry.ofSource start).1.reloadAll run).hosts.backends.row host).Nodup := by
  obtain ⟨placed, hplaced, htable⟩ := placed_reloadAll start run
  rw [htable, HostTable.row_ofList]
  apply (hplaced.filter _).map_on
  intro p hp q hq hbackend
  have hhost : p.1 = q.1 := by
    rw [of_decide_eq_true (List.mem_filter.mp hp).2, of_decide_eq_true (List.mem_filter.mp hq).2]
  exact Prod.ext hhost hbackend

/-- A registry answers for a host from what its table has there. -/
theorem listed?_congr {r r' : Registry} {u : Url}
    (h : r.hosts.find? u.hostKey = r'.hosts.find? u.hostKey) : r.listed? u = r'.listed? u := by
  unfold Registry.listed? HostTable.row
  rw [h]

/-- **Hosts are isolated across reloads.** After any run of reloads, let new settings list backends
    and say of a host what the table says of it, in the same order, or nothing as the table does.
    The reload then leaves the row of this host as it is, with the very entries that stood there,
    none of which is among those made for the new settings; and every URL of this host belongs to
    the same entry as before, or to none, whatever becomes of the other hosts. -/
theorem reload_isolates_hosts (start : Source) (run : List Source) (s : Source) (host : String)
    (hlists : listsBackends s = true)
    (hsame : (configuredTable s).find? host =
      ((Registry.ofSource start).1.reloadAll run).hosts.backends.find? host) :
    let r := (Registry.ofSource start).1.reloadAll run
    let r' := (r.reload s).registry
    r'.hosts.find? host = r.hosts.find? host ∧
      (∀ e ∈ r.hosts.row host, ∀ x ∈ (stampedTable s r.nextStamp).values, e.stamp ≠ x.stamp) ∧
      ∀ u : Url, u.hostKey = host →
        r'.listed? u = r.listed? u ∧ r'.resolve? u = r.resolve? u := by
  intro r r'
  have hhosts : r'.hosts = nextTable r.hosts (stampedTable s r.nextStamp) := by
    unfold r' Registry.reload
    rw [if_pos hlists]
  have hrow : r'.hosts.find? host = r.hosts.find? host := by
    rw [hhosts]
    apply find?_nextTable_of_same (nodup_row_reloadAll start run host)
    rw [stampedTable_backends, hsame]
  refine ⟨hrow, ?_, ?_⟩
  · intro e he x hx
    have hold := issued_reloadAll start run e (HostTable.mem_values_of_mem_row he)
    have hnew := (stamp_of_mem_stampedTable hx).1
    exact ne_of_lt (lt_of_lt_of_le hold hnew)
  · intro u hu
    have hlisted : r'.listed? u = r.listed? u := by
      apply listed?_congr
      rw [hu, hrow]
    refine ⟨hlisted, ?_⟩
    rw [resolve?_eq_or, resolve?_eq_or, hlisted, fallback?_reload]

/-- The two tenants of `h` stay as they are, that of `g` gets another secret, and one comes to a
    host that was not there. -/
def otherNeighbours : Source := textSettings
  [("backend", [("backends", "comes, stays, leaves, changes")]),
    ("changes", [("url", "https://h/c/"), ("secret", "second")]),
    ("comes", [("url", "https://f/"), ("secret", "fourth")]),
    ("leaves", [("url", "https://g/"), ("secret", "fifth")]),
    ("stays", [("url", "https://h/s/"), ("secret", "first")])]

theorem reload_isolates_hosts_neighbours :
    let r := (Registry.ofSource namedHost).1.reloadAll [threeTenants]
    let r' := (r.reload otherNeighbours).registry
    listsBackends otherNeighbours = true ∧
      (configuredTable otherNeighbours).find? "h" = r.hosts.backends.find? "h" ∧
      r'.hosts.find? "h" = r.hosts.find? "h" ∧ r'.hosts.find? "g" ≠ r.hosts.find? "g" ∧
      r'.resolve? (urlOnH "/c/") = r.resolve? (urlOnH "/c/") ∧
      (r'.resolve? (urlOnH "/c/")).map (·.backend.id) = some "changes" := by
  intro r r'
  have hlists : listsBackends otherNeighbours = true := by decide
  have hsame : (configuredTable otherNeighbours).find? "h" = r.hosts.backends.find? "h" := by
    decide +kernel
  have hother : r'.hosts.find? "g" ≠ r.hosts.find? "g" := by decide +kernel
  obtain ⟨hrow, -, hanswers⟩ :=
    reload_isolates_hosts namedHost [threeTenants] otherNeighbours "h" hlists hsame
  have hanswer := (hanswers (urlOnH "/c/") (by decide +kernel)).2
  exact ⟨hlists, hsame, hrow, hother, hanswer, by decide +kernel⟩

end Switchboard.Tenancy
