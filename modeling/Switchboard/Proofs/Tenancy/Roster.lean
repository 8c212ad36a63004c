import Switchboard.Proofs.Tenancy.Allowed
import Switchboard.Proofs.Tenancy.Repeated
/-
  Who is listed. A registry lists the entries of its table in the order of their places, by host key
  and then by position, and leaves out an entry whose stamp it has met before. This lists every
  backend once because stamps and backends tell the same entries apart. A stamp stands for one entry
  through every reload (`identified_reloadAll`). As for backends, a table has listed backends only,
  no two of which have the same id, or it has the shared entry only (`kind_reloadAll`): then the list
  is all of the table, or this one entry.
-/
namespace Switchboard.Tenancy

open Switchboard.Settings (Source)

/-! ## Places -/

namespace HostTable

/-- A place in a table: a host key, and a position under it. -/
structure Place where
  host : String
  position : Nat

/-- The host key of one place is smaller, or it is the same and the position is smaller. -/
def Place.Precedes (p q : Place) : Prop := p.host < q.host ∨ p.host = q.host ∧ p.position < q.position

variable {α : Type}

/-- A value stands at a place of a table. -/
def StandsAt (t : HostTable α) (p : Place) (a : α) : Prop := (t.row p.host)[p.position]? = some a

/-- Wherever the two values stand, the first one comes first. -/
def Before (t : HostTable α) (a b : α) : Prop :=
  ∀ p q, t.StandsAt p a → t.StandsAt q b → p.Precedes q

/-- A list of all that stands in a table: each value once, in the order in which they stand. -/
structure Roster (t : HostTable α) (l : List α) : Prop where
  nodup : l.Nodup
  mem_iff : ∀ a, a ∈ l ↔ ∃ host, a ∈ t.row host
  ordered : l.Pairwise t.Before

/-- The values of a table with their places. -/
def places (t : HostTable α) : List (Place × α) :=
  t.flatMap fun p => p.2.zipIdx.map fun x => (⟨p.1, x.2⟩, x.1)

theorem map_snd_places (t : HostTable α) : t.places.map (·.2) = t.values := by
  unfold places values
  rw [List.map_flatMap]
  refine List.flatMap_congr fun p _ => ?_
  rw [List.map_map]
  exact List.zipIdx_map_fst 0 p.2

theorem mem_places_of_standsAt {t : HostTable α} {p : Place} {a : α} (h : t.StandsAt p a) :
    (p, a) ∈ t.places := by
  obtain ⟨row, hrow, -⟩ := mem_row_iff.mp (List.mem_of_getElem? h)
  unfold StandsAt at h
  rw [row_of_find? hrow] at h
  refine List.mem_flatMap.mpr ⟨(p.host, row), Directory.mem_of_find? hrow, ?_⟩
  exact List.mem_map.mpr ⟨(a, p.position), List.mem_zipIdx_iff_getElem?.mpr h, rfl⟩

theorem pairwise_places {t : HostTable α} (h : Directory.Ascending t) :
    t.places.Pairwise fun x y => x.1.Precedes y.1 := by
  refine List.pairwise_flatMap.mpr ⟨fun p _ => ?_, ?_⟩
  · -- Under one host key the positions count up.
    rw [List.pairwise_map, List.pairwise_iff_getElem]
    intro i j hi hj hij
    simpa [Place.Precedes] using hij
  · refine (List.pairwise_map.mp h).imp fun hlt x hx y hy => ?_
    obtain ⟨_, -, rfl⟩ := List.mem_map.mp hx
    obtain ⟨_, -, rfl⟩ := List.mem_map.mp hy
    exact .inl hlt

/-- Values that stand at one place each come in the order of their places. -/
theorem pairwise_before {t : HostTable α} (h : Directory.Ascending t) (hnodup : t.values.Nodup) :
    t.values.Pairwise t.Before := by
  have hplaces := pairwise_places h
  rw [← map_snd_places] at hnodup ⊢
  rw [List.pairwise_map]
  refine hplaces.imp_of_mem fun {x y} hx hy hprecedes p q hp hq => ?_
  have hp : (p, x.2) = x :=
    List.inj_on_of_nodup_map hnodup (mem_places_of_standsAt hp) hx rfl
  have hq : (q, y.2) = y :=
    List.inj_on_of_nodup_map hnodup (mem_places_of_standsAt hq) hy rfl
  rwa [← hp, ← hq] at hprecedes

theorem mem_values {t : HostTable α} (h : Directory.Ascending t) {a : α} :
    a ∈ t.values ↔ ∃ host, a ∈ t.row host := by
  rw [values_eq_pairs, List.mem_map]
  constructor
  · rintro ⟨⟨host, a⟩, hmem, rfl⟩
    exact ⟨host, (mem_pairs h).mp hmem⟩
  · rintro ⟨host, ha⟩
    exact ⟨(host, a), (mem_pairs h).mpr ha, rfl⟩

theorem roster_values {t : HostTable α} (h : Directory.Ascending t) (hnodup : t.values.Nodup) :
    t.Roster t.values :=
  ⟨hnodup, fun _ => mem_values h, pairwise_before h hnodup⟩

theorem roster_singleton {t : HostTable α} (h : Directory.Ascending t) {a : α}
    (honly : ∀ b ∈ t.values, b = a) (hne : t.values ≠ []) : t.Roster [a] := by
  refine ⟨List.nodup_singleton a, fun b => ?_, List.pairwise_singleton _ a⟩
  rw [← mem_values h, List.mem_singleton]
  constructor
  · rintro rfl
    obtain ⟨x, hx⟩ := List.exists_mem_of_ne_nil _ hne
    rwa [← honly x hx]
  · exact honly b

end HostTable

/-! ## Entries with the same stamp -/

theorem distinctEntries_of_nodup {l : List Entry} (h : (l.map (·.stamp)).Nodup) :
    Registry.distinctEntries l = l := by
  induction l with
  | nil => rfl
  | cons e rest ih =>
    obtain ⟨he, hrest⟩ := List.nodup_cons.mp h
    rw [Registry.distinctEntries, ih hrest, List.filter_eq_self.mpr]
    intro x hx
    exact decide_eq_true fun hstamp => he (List.mem_map.mpr ⟨x, hx, hstamp⟩)

theorem mem_of_mem_distinctEntries {l : List Entry} {e : Entry}
    (h : e ∈ Registry.distinctEntries l) : e ∈ l := by
  induction l with
  | nil => exact h
  | cons x rest ih =>
    rcases List.mem_cons.mp h with rfl | h
    · exact List.mem_cons_self
    · exact List.mem_cons_of_mem x (ih (List.mem_filter.mp h).1)

theorem distinctEntries_of_all_eq {e : Entry} {rest : List Entry} (h : ∀ x ∈ rest, x = e) :
    Registry.distinctEntries (e :: rest) = [e] := by
  rw [Registry.distinctEntries, List.filter_eq_nil_iff.mpr]
  intro x hx
  simp [h x (mem_of_mem_distinctEntries hx)]

/-! ## A stamp stands for one entry -/

/-- A stamp stands for one entry: entries of the table with the same stamp are the same. -/
def Registry.Identified (r : Registry) : Prop :=
  ∀ e ∈ r.hosts.values, ∀ x ∈ r.hosts.values, e.stamp = x.stamp → e = x

theorem eq_of_stamp_stamped {first : Nat} {placed : List Placed} {p q : String × Entry}
    (hp : p ∈ stamped first placed) (hq : q ∈ stamped first placed)
    (hstamp : p.2.stamp = q.2.stamp) : p = q := by
  induction placed generalizing first with
  | nil => cases hp
  | cons b rest ih =>
    -- The first stamp is smaller than all that follow.
    rcases List.mem_cons.mp hp with rfl | hp <;> rcases List.mem_cons.mp hq with rfl | hq
    · rfl
    · exact absurd hstamp (ne_of_lt (stamp_of_mem_stamped hq).1)
    · exact absurd hstamp (ne_of_gt (stamp_of_mem_stamped hp).1)
    · exact ih hp hq

theorem eq_of_stamp_stampedTable {s : Source} {first : Nat} {e x : Entry}
    (he : e ∈ (stampedTable s first).values) (hx : x ∈ (stampedTable s first).values)
    (hstamp : e.stamp = x.stamp) : e = x := by
  obtain ⟨p, hp, rfl⟩ := List.mem_map.mp ((HostTable.perm_values_ofList _).mem_iff.mp he)
  obtain ⟨q, hq, rfl⟩ := List.mem_map.mp ((HostTable.perm_values_ofList _).mem_iff.mp hx)
  rw [eq_of_stamp_stamped hp hq hstamp]

theorem eq_shared_of_mem_ofAllowed {s : Source} {raw : String} {e : Entry}
    (h : e ∈ (Registry.ofAllowed s raw).1.hosts.values) :
    e = ⟨0, .shared (Registry.sharedSecret s)⟩ := by
  obtain ⟨p, hp, he⟩ := List.mem_flatMap.mp h
  rw [(row_shared_ofAllowed hp).1] at he
  exact List.mem_singleton.mp he

theorem identified_ofSource (s : Source) : (Registry.ofSource s).1.Identified := by
  unfold Registry.Identified
  rcases ofSource_cases s with hempty | hlisted | ⟨raw, hallowed⟩
  · rw [hempty]
    exact nofun
  · rw [hlisted, hosts_ofBackends]
    exact fun e he x hx => eq_of_stamp_stampedTable he hx
  · rw [hallowed]
    intro e he x hx _
    rw [eq_shared_of_mem_ofAllowed he, eq_shared_of_mem_ofAllowed hx]

/-- The entries that a reload keeps have older stamps than those that it brings in. -/
theorem identified_reload {r : Registry} (h : r.Identified) (hissued : r.Issued) (s : Source) :
    (r.reload s).registry.Identified := by
  cases hlists : listsBackends s with
  | false => rwa [reload_of_not_listsBackends r hlists]
  | true =>
    unfold Registry.Identified
    rw [hosts_reload r hlists]
    intro e he x hx hstamp
    rcases mem_values_nextTable he with he | he <;> rcases mem_values_nextTable hx with hx | hx
    · exact h e he x hx hstamp
    · exact absurd hstamp (ne_of_lt (lt_of_lt_of_le (hissued e he) (stamp_of_mem_stampedTable hx).1))
    · exact absurd hstamp (ne_of_gt (lt_of_lt_of_le (hissued x hx) (stamp_of_mem_stampedTable he).1))
    · exact eq_of_stamp_stampedTable he hx hstamp

theorem identified_reloadAll (start : Source) (run : List Source) :
    ((Registry.ofSource start).1.reloadAll run).Identified := by
  -- That new entries have stamps of their own takes that the old stamps were given out.
  refine (reloadAll_induction (P := fun r => r.Identified ∧ r.Issued) ?_
    ⟨identified_ofSource start, issued_ofSource start⟩ run).1
  rintro r s ⟨hr, hissued⟩
  exact ⟨identified_reload hr hissued s, issued_reload hissued s⟩

/-! ## Two kinds of tables -/

/-- What a registry has in its table: listed backends only, or the shared entry only. -/
inductive Registry.Kind (r : Registry) : Prop
  | listed (each : ∀ e ∈ r.hosts.values, e.backend.compat = false)
  | shared (e : Entry) (compat : e.backend.compat = true) (only : ∀ x ∈ r.hosts.values, x = e)

theorem compat_of_mem_configuredTable {s : Source} {b : Backend}
    (h : b ∈ (configuredTable s).values) : b.compat = false := by
  obtain ⟨p, hp, rfl⟩ := List.mem_map.mp ((HostTable.perm_values_ofList _).mem_iff.mp h)
  obtain ⟨id, -, url, secret, -, rfl⟩ := mem_placedBackends.mp hp
  rfl

theorem kind_of_configuredTable {r : Registry} {s : Source}
    (h : r.hosts.backends = configuredTable s) : r.Kind := by
  refine .listed fun e he => compat_of_mem_configuredTable (s := s) ?_
  rw [← h, HostTable.values_backends]
  exact List.mem_map_of_mem he

theorem kind_ofSource (s : Source) : (Registry.ofSource s).1.Kind := by
  rcases ofSource_cases s with hempty | hlisted | ⟨raw, hallowed⟩
  · refine .listed ?_
    rw [hempty]
    exact nofun
  · rw [hlisted]
    exact kind_of_configuredTable (backends_ofBackends s)
  · rw [hallowed]
    exact .shared _ rfl fun e he => eq_shared_of_mem_ofAllowed he

theorem kind_reloadAll (start : Source) (run : List Source) :
    ((Registry.ofSource start).1.reloadAll run).Kind := by
  rcases settledTable_cases (Registry.ofSource start).1.hosts.backends run with
    ⟨-, hnever⟩ | ⟨s, -, -, htable⟩
  · rw [reloadAll_of_not_listsBackends _ hnever]
    exact kind_ofSource start
  · exact kind_of_configuredTable ((backends_reloadAll _ run).trans htable)

/-! ## Lists of entries -/

/-- Listed backends are distinct, as their ids are. -/
theorem nodup_values_of_listed {t : HostTable Backend} (h : t.WellFormed)
    (hlisted : ∀ b ∈ t.values, b.compat = false) : t.values.Nodup := by
  have hall : t.values.filter (!·.compat) = t.values := by
    rw [List.filter_eq_self]
    intro b hb
    rw [hlisted b hb]
    rfl
  have hids := h.distinct
  rw [hall] at hids
  exact hids.of_map

theorem entries_of_nodup {r : Registry} (hidentified : r.Identified)
    (hnodup : r.hosts.backends.values.Nodup) : r.entries = r.hosts.values := by
  rw [HostTable.values_backends] at hnodup
  exact distinctEntries_of_nodup (hnodup.of_map.map_on hidentified)

theorem entries_of_shared {r : Registry} {e : Entry} (honly : ∀ x ∈ r.hosts.values, x = e)
    (hne : r.hosts.values ≠ []) : r.entries = [e] := by
  obtain ⟨x, rest, hvalues⟩ := List.exists_cons_of_ne_nil hne
  rw [hvalues] at honly
  obtain ⟨rfl, hrest⟩ := List.forall_mem_cons.mp honly
  unfold Registry.entries
  rw [hvalues, distinctEntries_of_all_eq hrest]

/-- The entries of a registry, whatever its kind, are a list of all that stands in its table. -/
theorem roster_entries {r : Registry} (hkind : r.Kind) (hidentified : r.Identified)
    (hwell : r.hosts.backends.WellFormed) (hascending : Directory.Ascending r.hosts.backends) :
    r.hosts.backends.Roster (r.entries.map (·.backend)) := by
  have hvalues : ∀ b ∈ r.hosts.backends.values, ∃ e ∈ r.hosts.values, e.backend = b := by
    intro b hb
    rw [HostTable.values_backends] at hb
    exact List.mem_map.mp hb
  have hwhole (hnodup : r.hosts.backends.values.Nodup) :
      r.hosts.backends.Roster (r.entries.map (·.backend)) := by
    rw [entries_of_nodup hidentified hnodup, ← HostTable.values_backends]
    exact HostTable.roster_values hascending hnodup
  cases hkind with
  | listed each =>
    refine hwhole (nodup_values_of_listed hwell fun b hb => ?_)
    obtain ⟨e, he, rfl⟩ := hvalues b hb
    exact each e he
  | shared e compat only =>
    by_cases hempty : r.hosts.backends.values = []
    · exact hwhole (hempty ▸ List.nodup_nil)
    · have hne : r.hosts.values ≠ [] := by
        intro hnil
        rw [HostTable.values_backends, hnil] at hempty
        exact hempty rfl
      rw [entries_of_shared only hne]
      refine HostTable.roster_singleton hascending (fun b hb => ?_) hempty
      obtain ⟨x, hx, rfl⟩ := hvalues b hb
      rw [only x hx]

/-- **Every backend is listed once.** After any run of reloads, the registry lists by value each
    backend that stands in its table once, and nothing else. Of two backends that it lists, wherever
    they stand, the first one stands before the other, by host key and then by position. If the table
    has listed backends only, the list is as long as all rows together; if it has the shared one only
    and is not empty, the list has one. The host keys are those of the table, and ascend strictly. -/
theorem backends_listed_once (start : Source) (run : List Source) :
    let r := (Registry.ofSource start).1.reloadAll run
    let table := r.hosts.backends
    let listed := r.entries.map (·.backend)
    table.Roster listed ∧
      ((∀ host, ∀ b ∈ table.row host, b.compat = false) → listed.length = table.values.length) ∧
      (table ≠ [] → (∀ host, ∀ b ∈ table.row host, b.compat = true) → listed.length = 1) ∧
      r.hostKeys.Pairwise (· < ·) ∧
      ∀ host, host ∈ r.hostKeys ↔ (r.hosts.find? host).isSome = true := by
  intro r table listed
  have hwell : table.WellFormed := wellFormed_reloadAll start run
  have hascending : Directory.Ascending table := ascending_reloadAll start run
  have hkind : r.Kind := kind_reloadAll start run
  have hroster : table.Roster listed :=
    roster_entries hkind (identified_reloadAll start run) hwell hascending
  have hvalues : ∀ b, b ∈ table.values ↔ ∃ host, b ∈ table.row host := fun b =>
    HostTable.mem_values hascending
  refine ⟨hroster, ?_, ?_, ?_, ?_⟩
  · intro hlisted
    have hnodup : table.values.Nodup := nodup_values_of_listed hwell fun b hb =>
      let ⟨host, hrow⟩ := (hvalues b).mp hb
      hlisted host b hrow
    refine List.Perm.length_eq ((List.perm_ext_iff_of_nodup hroster.nodup hnodup).mpr fun b => ?_)
    rw [hroster.mem_iff, hvalues]
  · intro hne hshared
    obtain ⟨p, hp⟩ := List.exists_mem_of_ne_nil _ hne
    obtain ⟨b, hb⟩ := List.exists_mem_of_ne_nil _ (hwell.filled p hp)
    have hvalue : b ∈ table.values := List.mem_flatMap.mpr ⟨p, hp, hb⟩
    obtain ⟨host, hrow⟩ := (hvalues b).mp hvalue
    have hcompat : b.compat = true := hshared host b hrow
    rw [HostTable.values_backends] at hvalue
    obtain ⟨e, he, rfl⟩ := List.mem_map.mp hvalue
    cases hkind with
    | listed each => exact absurd (each e he) (ne_false_of_eq_true hcompat)
    | shared x compat only =>
      rw [List.length_map, entries_of_shared only (List.ne_nil_of_mem he), List.length_singleton]
  · exact HostTable.ascending_backends.mp hascending
  · intro host
    have hfound : (r.hosts.find? host).isNone = true ↔ host ∉ r.hostKeys :=
      Directory.find?_isNone_iff
    rw [← Option.not_isNone, Bool.not_eq_true', ← Bool.not_eq_true, hfound, not_not]

/-- Three tenants on two hosts after two of them had been there, and two hosts that are allowed by
    name. -/
theorem backends_listed_once_tenants :
    let r := (Registry.ofSource namedHost).1.reloadAll [twoTenants, threeTenants]
    let named := (Registry.ofSource severalNames).1.reloadAll [namedHost]
    r.hosts.backends.Roster (r.entries.map (·.backend)) ∧
      (∀ host, ∀ b ∈ r.hosts.backends.row host, b.compat = false) ∧
      (r.entries.map (·.backend)).length = r.hosts.backends.values.length ∧
      r.entries.map (·.backend.id) = ["leaves", "stays", "changes"] ∧ r.hostKeys = ["g", "h"] ∧
      named.hosts.backends ≠ [] ∧ named.hostKeys = ["g", "h"] ∧
      (∀ host, ∀ b ∈ named.hosts.backends.row host, b.compat = true) ∧
      (named.entries.map (·.backend)).length = 1 := by
  intro r named
  have hids : r.entries.map (·.backend.id) = ["leaves", "stays", "changes"] := by decide +kernel
  have hlisted : ∀ b ∈ r.hosts.backends.values, b.compat = false := by decide +kernel
  have hshared : ∀ b ∈ named.hosts.backends.values, b.compat = true := by decide +kernel
  have hkeys : named.hostKeys = ["g", "h"] := by decide +kernel
  have hne : named.hosts.backends ≠ [] := by
    intro hnil
    rw [Registry.hostKeys, ← HostTable.names_backends, hnil] at hkeys
    cases hkeys
  obtain ⟨hroster, hlength, -, -, -⟩ :=
    backends_listed_once namedHost [twoTenants, threeTenants]
  obtain ⟨-, -, hone, -, -⟩ := backends_listed_once severalNames [namedHost]
  have hrows : ∀ host, ∀ b ∈ r.hosts.backends.row host, b.compat = false := fun _ b hb =>
    hlisted b (HostTable.mem_values_of_mem_row hb)
  have hnamed : ∀ host, ∀ b ∈ named.hosts.backends.row host, b.compat = true := fun _ b hb =>
    hshared b (HostTable.mem_values_of_mem_row hb)
  exact ⟨hroster, hrows, hlength hrows, hids, by decide +kernel, hne, hkeys, hnamed,
    hone hne hnamed⟩

end Switchboard.Tenancy
