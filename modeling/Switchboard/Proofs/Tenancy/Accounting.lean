import Switchboard.Proofs.Tenancy.Summaries
import Switchboard.Proofs.Tenancy.WellFormed
/-
  Summaries as differences of tables. A reload counts row by row, and what it drops it counts apart;
  together this is what stands in the one table and not in the other (`kept_changes`,
  `added_changes`, `removed_changes`), each backend counted under its host key. The entries of a
  registry are pairwise distinct under each key (`placed_reloadAll`), so the counts of a summary add
  up to the sizes of both tables. `reload_accounts` says so of every reload that is applied.
-/
namespace Switchboard.Tenancy

open Switchboard.Settings (Source)

/-! ## Counting row by row -/

namespace HostTable

variable {α : Type}

theorem sum_rows_filter (t : HostTable α) (f : String × α → Bool) :
    (t.map fun p => (p.2.filter fun a => f (p.1, a)).length).sum = (t.pairs.filter f).length := by
  induction t with
  | nil => rfl
  | cons p rest ih =>
    rw [List.map_cons, List.sum_cons, ih, pairs_cons, List.filter_append, List.length_append,
      List.filter_map, List.length_map]
    rfl

/-- Pairs counted host by host are the pairs of these hosts. -/
theorem sum_hosts_filter {hosts : List String} (h : hosts.Nodup) (l : List (String × α)) :
    (hosts.map fun host => (l.filter (·.1 = host)).length).sum =
      (l.filter (·.1 ∈ hosts)).length := by
  induction hosts with
  | nil => simp
  | cons k rest ih =>
    obtain ⟨hk, hrest⟩ := List.nodup_cons.mp h
    have hfirst : (l.filter (·.1 ∈ k :: rest)).filter (·.1 = k) = l.filter (·.1 = k) := by
      rw [List.filter_filter]
      refine List.filter_congr fun p _ => ?_
      by_cases hp : p.1 = k <;> simp [hp]
    have hothers : (l.filter (·.1 ∈ k :: rest)).filter (fun p => !decide (p.1 = k)) =
        l.filter (·.1 ∈ rest) := by
      rw [List.filter_filter]
      refine List.filter_congr fun p _ => ?_
      by_cases hp : p.1 = k <;> simp [hp, hk]
    rw [List.map_cons, List.sum_cons, ih hrest,
      List.length_eq_length_filter_add (l := l.filter (·.1 ∈ k :: rest)) (·.1 = k), hfirst, hothers]

end HostTable

/-! ## One row -/

theorem length_keptEntries (existing wanted : List Entry) :
    (keptEntries existing wanted).length =
      ((wanted.map (·.backend)).filter (· ∈ existing.map (·.backend))).length := by
  unfold keptEntries
  rw [List.filter_map, List.length_map]
  congr 1
  refine List.filter_congr fun e _ => ?_
  rw [Bool.eq_iff_iff, sameBackend?_isSome_iff, Function.comp_apply, decide_eq_true_eq]

theorem length_addedEntries (existing wanted : List Entry) :
    (addedEntries existing wanted).length =
      ((wanted.map (·.backend)).filter (· ∉ existing.map (·.backend))).length := by
  unfold addedEntries
  rw [List.filter_map, List.length_map]
  congr 1
  refine List.filter_congr fun e _ => ?_
  rw [Bool.eq_iff_iff, sameBackend?_isNone_iff, Function.comp_apply, decide_eq_true_eq]

/-- What is removed of the existing entries is what would be added if they were wanted. -/
theorem length_removedEntries (existing wanted : List Entry) :
    (removedEntries existing wanted).length =
      ((existing.map (·.backend)).filter (· ∉ wanted.map (·.backend))).length :=
  length_addedEntries wanted existing

/-! ## All rows -/

section

variable {old new : HostTable Entry}

theorem sum_rows_backends (t : HostTable Entry) (f : String × Backend → Bool) :
    (t.map fun p => ((p.2.map (·.backend)).filter fun b => f (p.1, b)).length).sum =
      (t.backends.pairs.filter f).length := by
  rw [← HostTable.sum_rows_filter]
  unfold HostTable.backends HostTable.mapValues
  rw [List.map_map]
  rfl

/-- What is kept is what stands in the new table and stood in the old one. -/
theorem kept_changes (hold : old.backends.Kept) :
    (changes old new).kept = (new.backends.pairs.filter (· ∈ old.backends.pairs)).length := by
  rw [changes_eq, ← sum_rows_backends]
  simp only [length_keptEntries, ← HostTable.row_backends, HostTable.mem_pairs hold.ascending]

/-- What is added is what stands in the new table and did not stand in the old one. -/
theorem added_changes (hold : old.backends.Kept) :
    (changes old new).added = (new.backends.pairs.filter (· ∉ old.backends.pairs)).length := by
  rw [changes_eq, ← sum_rows_backends]
  simp only [length_addedEntries, ← HostTable.row_backends, HostTable.mem_pairs hold.ascending]

/-- What is dropped with its host is what stood in the old table under a host key that the new one
    does not have. -/
theorem length_droppedHosts (old new : HostTable Entry) :
    (droppedHosts old new).values.length =
      (old.backends.pairs.filter (·.1 ∉ new.names)).length := by
  unfold droppedHosts
  have hrows := HostTable.pairs_filter old fun host => (new.find? host).isNone
  rw [HostTable.values_eq_pairs, List.length_map, hrows, HostTable.pairs_backends,
    List.filter_map, List.length_map]
  congr 1
  refine List.filter_congr fun p _ => ?_
  rw [Bool.eq_iff_iff, Directory.find?_isNone_iff, Function.comp_apply, decide_eq_true_eq]

/-- What is removed under the host keys of the new table. -/
theorem sum_removedEntries (hold : old.backends.Kept) (hnew : new.backends.Kept) :
    (new.map fun p => (removedEntries (old.row p.1) p.2).length).sum =
      ((old.backends.pairs.filter (· ∉ new.backends.pairs)).filter (·.1 ∈ new.names)).length := by
  have hnodup : new.names.Nodup := by
    rw [← HostTable.names_backends]
    exact hnew.ascending.imp ne_of_lt
  rw [← HostTable.sum_hosts_filter hnodup, Directory.names, List.map_map]
  congr 1
  refine List.map_congr_left fun p hp => ?_
  have hrow : new.backends.row p.1 = p.2.map (·.backend) :=
    HostTable.row_of_mem hnew (HostTable.mem_mapValues (·.backend) hp)
  rw [length_removedEntries, ← hrow, ← HostTable.row_backends, Function.comp_apply,
    List.filter_comm, HostTable.filter_pairs_eq hold.ascending, List.filter_map, List.length_map]
  simp only [Function.comp_def, HostTable.mem_pairs hnew.ascending]

/-- What is removed is what stood in the old table and does not stand in the new one. -/
theorem removed_changes (hold : old.backends.Kept) (hnew : new.backends.Kept) :
    (changes old new).removed = (old.backends.pairs.filter (· ∉ new.backends.pairs)).length := by
  have hdropped : (droppedHosts old new).values.length =
      ((old.backends.pairs.filter (· ∉ new.backends.pairs)).filter
        (fun p => !decide (p.1 ∈ new.names))).length := by
    rw [length_droppedHosts, List.filter_filter]
    congr 1
    refine List.filter_congr fun p _ => ?_
    have hhost : p ∈ new.backends.pairs → p.1 ∈ new.names := by
      intro hp
      rw [← HostTable.names_backends]
      exact HostTable.host_mem_of_mem_pairs hp
    by_cases hp : p ∈ new.backends.pairs
    · simp [hp, hhost hp]
    · simp [hp]
  rw [changes_eq]
  dsimp only
  rw [hdropped, sum_removedEntries hold hnew, Nat.add_comm]
  exact (List.length_eq_length_filter_add _).symm

end

/-! ## Summaries -/

/-- A summary that accounts for the replacement of a table: with what it keeps it counts each table
    in full, it keeps what stands in both under the same host key, it names the hosts of the old
    table that the new one lacks, each once and in order, and it reports no change exactly if both
    have the same hosts and the same backends under each. -/
structure Summary.Accounts (s : Summary) (old new : HostTable Backend) : Prop where
  new_total : s.kept + s.added = new.values.length
  old_total : s.kept + s.removed = old.values.length
  kept_both : s.kept = (old.pairs.toFinset ∩ new.pairs.toFinset).card
  hosts_ascending : s.hostsRemoved.Pairwise (· < ·)
  mem_hosts : ∀ host, host ∈ s.hostsRemoved ↔ host ∈ old.names ∧ host ∉ new.names
  unchanged : s.isUnchanged = true ↔
    (∀ host, host ∈ old.names ↔ host ∈ new.names) ∧
      ∀ host b, b ∈ old.row host ↔ b ∈ new.row host

theorem length_filter_mem_add (l r : List Placed) :
    (r.filter (· ∈ l)).length + (r.filter (· ∉ l)).length = r.length := by
  have hsplit := List.length_eq_length_filter_add (l := r) (· ∈ l)
  simpa using hsplit.symm

/-- In a list without repetition, what stands in another list is what both have. -/
theorem length_filter_mem (l : List Placed) {r : List Placed} (hr : r.Nodup) :
    (r.filter (· ∈ l)).length = (l.toFinset ∩ r.toFinset).card := by
  have hset : (r.filter (· ∈ l)).toFinset = l.toFinset ∩ r.toFinset := by
    ext a
    simp [and_comm]
  rw [← hset, List.toFinset_card_of_nodup (hr.filter _)]

section

variable {old new : HostTable Entry}

theorem hostsRemoved_changes (old new : HostTable Entry) :
    (changes old new).hostsRemoved =
      old.backends.names.filter fun host => (new.backends.find? host).isNone := by
  have hfind : ∀ host, (new.backends.find? host).isNone = (new.find? host).isNone := by
    intro host
    rw [Bool.eq_iff_iff, Directory.find?_isNone_iff, Directory.find?_isNone_iff,
      HostTable.names_backends]
  simp only [hfind]
  rw [changes_eq, HostTable.names_backends]
  unfold droppedHosts Directory.names
  rw [List.filter_map]
  rfl

/-- A summary depends only on what the two tables say. -/
theorem changes_eq_backends (old new : HostTable Entry) :
    changes old new =
      { kept := (new.backends.map fun p =>
          (p.2.filter (· ∈ old.backends.row p.1)).length).sum
        added := (new.backends.map fun p =>
          (p.2.filter (· ∉ old.backends.row p.1)).length).sum
        removed := (old.backends.pairs.filter (·.1 ∉ new.backends.names)).length +
          (new.backends.map fun p => ((old.backends.row p.1).filter (· ∉ p.2)).length).sum
        hostsRemoved := old.backends.names.filter fun host =>
          (new.backends.find? host).isNone } := by
  have hrows (f : String × List Backend → Nat) :
      new.backends.map f = new.map fun p => f (p.1, p.2.map (·.backend)) := List.map_map
  have hhosts := hostsRemoved_changes old new
  rw [changes_eq] at hhosts ⊢
  dsimp only at hhosts
  rw [hhosts, length_droppedHosts, HostTable.names_backends new, hrows, hrows, hrows]
  simp only [length_keptEntries, length_addedEntries, length_removedEntries,
    HostTable.row_backends]

/-- No change is reported exactly if the same backends stand under the same host keys. -/
theorem isUnchanged_changes_iff (hold : old.backends.Kept) (hnew : new.backends.Kept) :
    (changes old new).isUnchanged = true ↔
      (∀ host, host ∈ old.backends.names ↔ host ∈ new.backends.names) ∧
        ∀ host b, b ∈ old.backends.row host ↔ b ∈ new.backends.row host := by
  constructor
  · intro h
    have hrows := mem_row_of_isUnchanged h
    refine ⟨fun host => ?_, hrows⟩
    rw [HostTable.mem_names hold, HostTable.mem_names hnew]
    simp only [hrows]
  · rintro ⟨hhosts, hrows⟩
    have hpairs : ∀ p, p ∈ old.backends.pairs ↔ p ∈ new.backends.pairs := by
      rintro ⟨host, b⟩
      rw [HostTable.mem_pairs hold.ascending, HostTable.mem_pairs hnew.ascending, hrows]
    have hadded : (changes old new).added = 0 := by
      rw [added_changes hold, List.length_eq_zero_iff, List.filter_eq_nil_iff]
      simp [hpairs]
    have hremoved : (changes old new).removed = 0 := by
      rw [removed_changes hold hnew, List.length_eq_zero_iff, List.filter_eq_nil_iff]
      simp [hpairs]
    have hdropped : (changes old new).hostsRemoved = [] := by
      rw [hostsRemoved_changes, List.filter_eq_nil_iff]
      intro host hhost
      rw [Directory.find?_isNone_iff, not_not]
      exact (hhosts host).mp hhost
    simp [Summary.isUnchanged, hadded, hremoved, hdropped]

/-- The summary of a replacement accounts for it, if no backend stands twice under one host key. -/
theorem changes_accounts (hold : old.backends.Kept) (hnew : new.backends.Kept)
    (dold : old.backends.pairs.Nodup) (dnew : new.backends.pairs.Nodup) :
    (changes old new).Accounts old.backends new.backends := by
  have hboth : (changes old new).kept =
      (old.backends.pairs.toFinset ∩ new.backends.pairs.toFinset).card := by
    rw [kept_changes hold, length_filter_mem _ dnew]
  have hkept : (changes old new).kept =
      (old.backends.pairs.filter (· ∈ new.backends.pairs)).length := by
    rw [hboth, length_filter_mem _ dold, Finset.inter_comm]
  refine ⟨?_, ?_, hboth, ?_, ?_, isUnchanged_changes_iff hold hnew⟩
  · rw [HostTable.values_eq_pairs, List.length_map, kept_changes hold, added_changes hold]
    exact length_filter_mem_add _ _
  · rw [HostTable.values_eq_pairs, List.length_map, hkept, removed_changes hold hnew]
    exact length_filter_mem_add _ _
  · rw [hostsRemoved_changes]
    exact hold.ascending.filter _
  · intro host
    rw [hostsRemoved_changes, List.mem_filter, Directory.find?_isNone_iff]

end

/-! ## Reachable registries -/

theorem nodup_placedBackends (s : Source) : (placedBackends s).Nodup :=
  List.Nodup.of_map (·.2.id) ((nodup_backendIds s).sublist (ids_placedBackends_sublist s))

/-- A registry starts with a table of distinct backends. -/
theorem placed_ofSource (s : Source) :
    ∃ placed : List Placed, placed.Nodup ∧
      (Registry.ofSource s).1.hosts.backends = .ofList placed := by
  rcases ofSource_cases s with hempty | hlisted | ⟨raw, hallowed⟩
  · rw [hempty]
    exact ⟨[], List.nodup_nil, rfl⟩
  · rw [hlisted, backends_ofBackends]
    exact ⟨placedBackends s, nodup_placedBackends s, rfl⟩
  · have hnodup : (allowedHosts raw).Nodup := Text.nodup_distinct _
    rw [hallowed]
    unfold HostTable.backends
    rw [hosts_ofAllowed, HostTable.mapValues_ofList, List.map_map]
    refine ⟨_, hnodup.map ?_, rfl⟩
    intro host other heq
    exact congrArg Prod.fst heq

/-- The table of a registry is one of distinct backends, after any run of reloads. -/
theorem placed_reloadAll (start : Source) (run : List Source) :
    ∃ placed : List Placed, placed.Nodup ∧
      ((Registry.ofSource start).1.reloadAll run).hosts.backends = .ofList placed := by
  rw [backends_reloadAll]
  rcases settledTable_cases (Registry.ofSource start).1.hosts.backends run with
    ⟨htable, -⟩ | ⟨s, -, -, htable⟩
  · rw [htable]
    exact placed_ofSource start
  · rw [htable]
    exact ⟨placedBackends s, nodup_placedBackends s, rfl⟩

/-- **Summaries account for reloads.** After any run of reloads, a reload of settings that list
    backends is applied, and its summary accounts for the replacement of the table before by the
    table afterwards. -/
theorem reload_accounts (start : Source) (run : List Source) (s : Source)
    (hlists : listsBackends s = true) :
    let r := (Registry.ofSource start).1.reloadAll run
    ∃ summary, (r.reload s).outcome = .applied summary ∧
      summary.Accounts r.hosts.backends (r.reload s).registry.hosts.backends := by
  intro r
  obtain ⟨placed, hdistinct, hold⟩ := placed_reloadAll start run
  have hnew : (stampedTable s r.nextStamp).backends = .ofList (placedBackends s) :=
    stampedTable_backends s r.nextStamp
  have haccounts : (changes r.hosts (stampedTable s r.nextStamp)).Accounts r.hosts.backends
      (stampedTable s r.nextStamp).backends := by
    refine changes_accounts ?_ ?_ ?_ ?_
    · rw [hold]
      exact HostTable.kept_ofList placed
    · rw [hnew]
      exact HostTable.kept_ofList _
    · rw [hold]
      exact (HostTable.perm_pairs_ofList placed).nodup_iff.mpr hdistinct
    · rw [hnew]
      exact (HostTable.perm_pairs_ofList _).nodup_iff.mpr (nodup_placedBackends s)
  refine ⟨changes r.hosts (stampedTable s r.nextStamp), ?_, ?_⟩
  · unfold Registry.reload
    rw [if_pos hlists]
  · rw [backends_reload r hlists]
    rwa [stampedTable_backends] at haccounts

/-- Three backends on two hosts, and what becomes of them: one leaves with its host, one gets another
    secret, one stays but comes last. -/
def threeTenants : Source := textSettings
  [("backend", [("backends", "stays, changes, leaves")]),
    ("changes", [("url", "https://h/c/"), ("secret", "second")]),
    ("leaves", [("url", "https://g/"), ("secret", "third")]),
    ("stays", [("url", "https://h/s/"), ("secret", "first")])]

def twoTenants : Source := textSettings
  [("backend", [("backends", "changes, stays")]),
    ("changes", [("url", "https://h/c/"), ("secret", "another")]),
    ("stays", [("url", "https://h/s/"), ("secret", "first")])]

theorem reload_accounts_tenants :
    let r := (Registry.ofSource namedHost).1.reloadAll [threeTenants]
    listsBackends twoTenants = true ∧
      (r.reload twoTenants).outcome = .applied ⟨1, 1, 2, ["g"]⟩ ∧
      (Summary.mk 1 1 2 ["g"]).Accounts r.hosts.backends
        (r.reload twoTenants).registry.hosts.backends := by
  intro r
  have hlists : listsBackends twoTenants = true := by decide
  have houtcome : (r.reload twoTenants).outcome = .applied ⟨1, 1, 2, ["g"]⟩ := by decide +kernel
  obtain ⟨summary, happlied, haccounts⟩ := reload_accounts namedHost [threeTenants] twoTenants hlists
  have hsummary : summary = ⟨1, 1, 2, ["g"]⟩ := Outcome.applied.inj (happlied.symm.trans houtcome)
  rw [hsummary] at haccounts
  exact ⟨hlists, houtcome, haccounts⟩

end Switchboard.Tenancy
