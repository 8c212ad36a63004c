import Switchboard.Proofs.Tenancy.Contents
import Switchboard.Proofs.Tenancy.Runs
/-
  What holds of every table, however it came about. A table of placed backends is well formed if
  each is placed under the host key of its URL and no two listed ones have the same id
  (`wellFormed_ofList`). The listed backends are placed so, the allowed hosts have the shared entry
  alone, and a reload leaves a table of listed backends or none of its own. `registry_wellFormed`
  puts this together for a start and any run of reloads.
-/
namespace Switchboard.Tenancy

open Switchboard.Settings (Source)

/-! ## Host keys and URLs -/

theorem hostText_ne {u : Url} {h : Url.Host} (hh : u.host? = some h) : h.text ≠ "" := by
  unfold Url.host? at hh
  split at hh
  · cases hh
  · next a ha =>
    obtain ⟨hne, hh⟩ := Option.ite_none_left_eq_some.mp hh
    cases hh
    intro hempty
    cases hhost : a.host with
    | name s =>
      rw [hhost] at hne hempty
      exact hne (congrArg Url.Host.name hempty)
    | ipv4 addr =>
      rw [hhost] at hempty
      simp [Url.Host.text, Url.Ipv4.text, List.intercalate] at hempty
    | ipv6 addr =>
      rw [hhost] at hempty
      simp [Url.Host.text] at hempty

theorem hostKey_ne {u : Url} (h : u.host?.isSome = true) : u.hostKey ≠ "" := by
  obtain ⟨host, hhost⟩ := Option.isSome_iff_exists.mp h
  have htext := hostText_ne hhost
  unfold Url.hostKey
  rw [hhost]
  intro hempty
  have hlower := (String.append_eq_empty_iff.mp hempty).1
  rw [String.ofList_eq_empty_iff, Text.lowerAscii, List.map_eq_nil_iff,
    String.toList_eq_nil_iff] at hlower
  exact htext hlower

theorem getLast?_normalized (u : Url) : u.normalized.toList.getLast? = some '/' := by
  unfold Url.normalized withSlash
  split
  · next h => exact h
  · rw [String.toList_push, List.getLast?_append, List.getLast?_singleton]
    rfl

/-! ## Tables of placed backends -/

/-- A listed backend under a host key: it has a secret, and its URL, which ends with a slash, is the
    normal form of a URL that was read and has this host key. -/
structure Placement (host : String) (b : Backend) : Prop where
  url_ne : b.url ≠ ""
  slash : b.url.toList.getLast? = some '/'
  secret_ne : b.secret.bytes ≠ []
  source : ∃ text u, Url.ofText text = .ok u ∧ u.hostKey = host ∧ u.normalized = b.url

/-- A well-formed table: every host key has a text and a backend, the listed backends are placed
    under the host keys of their URLs, and no two of them, on any hosts, have the same id. -/
structure HostTable.WellFormed (t : HostTable Backend) : Prop where
  keyed : ∀ p ∈ t, p.1 ≠ ""
  filled : ∀ p ∈ t, p.2 ≠ []
  placed : ∀ p ∈ t, ∀ b ∈ p.2, b.compat = false → Placement p.1 b
  distinct : ((t.values.filter (!·.compat)).map (·.id)).Nodup

theorem wellFormed_ofList {placed : List Placed} (hkeyed : ∀ p ∈ placed, p.1 ≠ "")
    (hplaced : ∀ p ∈ placed, p.2.compat = false → Placement p.1 p.2)
    (hdistinct : (((placed.map (·.2)).filter (!·.compat)).map (·.id)).Nodup) :
    (HostTable.ofList placed).WellFormed := by
  have hkept := HostTable.kept_ofList placed
  -- A row holds what was placed under its key, so a key without a row was never used.
  have hmem : ∀ p ∈ HostTable.ofList placed, ∀ b ∈ p.2, (p.1, b) ∈ placed := by
    intro p hp b hb
    rw [← HostTable.row_of_mem hkept hp] at hb
    exact HostTable.mem_row_ofList.mp hb
  refine ⟨?_, hkept.filled, fun p hp b hb => hplaced _ (hmem p hp b hb), ?_⟩
  · intro p hp
    obtain ⟨b, hb⟩ := List.exists_mem_of_ne_nil _ (hkept.filled p hp)
    exact hkeyed _ (hmem p hp b hb)
  · exact (((HostTable.perm_values_ofList placed).filter _).map _).nodup_iff.mpr hdistinct

/-! ## Listed backends -/

theorem completeSection?_url {s : Source} {id : String} {url : Url} {secret : String}
    (h : completeSection? s id = some (url, secret)) :
    (∃ text, Url.ofText text = .ok url) ∧ url.host?.isSome = true := by
  unfold completeSection? at h
  obtain ⟨raw, -, h⟩ := Option.bind_eq_some_iff.mp h
  obtain ⟨url', hurl, h⟩ := Option.bind_eq_some_iff.mp h
  obtain ⟨secret', -, h⟩ := Option.bind_eq_some_iff.mp h
  cases h
  obtain ⟨hread, hhost⟩ := Option.filter_eq_some_iff.mp hurl
  refine ⟨⟨withSlash raw, ?_⟩, hhost⟩
  cases hof : Url.ofText (withSlash raw) with
  | error fault =>
    rw [hof] at hread
    cases hread
  | ok u =>
    rw [hof] at hread
    cases hread
    rfl

/-- What is placed for ids carries these ids, in their order. -/
theorem ids_placedBackends_sublist (s : Source) :
    ((placedBackends s).map (·.2.id)).Sublist (backendIds s) := by
  unfold placedBackends
  induction backendIds s with
  | nil => exact List.Sublist.refl _
  | cons id rest ih =>
    rw [List.filterMap_cons, toOption_configured]
    cases completeSection? s id with
    | none => exact ih.cons id
    | some p => exact ih.cons_cons id

theorem nodup_backendIds (s : Source) : (backendIds s).Nodup := Text.nodup_distinct _

theorem wellFormed_configuredTable (s : Source) : (configuredTable s).WellFormed := by
  have hsection : ∀ p ∈ placedBackends s, p.1 ≠ "" ∧ Placement p.1 p.2 := by
    intro p hp
    obtain ⟨id, -, url, secret, hcomplete, rfl⟩ := mem_placedBackends.mp hp
    obtain ⟨⟨text, hread⟩, hhost⟩ := completeSection?_url hcomplete
    refine ⟨hostKey_ne hhost, ?_, getLast?_normalized url, ?_, text, url, hread, rfl, rfl⟩
    · intro hempty
      have hslash := getLast?_normalized url
      rw [show url.normalized = "" from hempty] at hslash
      cases hslash
    · intro hnil
      exact completeSection?_secret_ne hcomplete (bytes_ofText_eq_nil.mp hnil)
  refine wellFormed_ofList (fun p hp => (hsection p hp).1) (fun p hp _ => (hsection p hp).2) ?_
  have hids := (nodup_backendIds s).sublist (ids_placedBackends_sublist s)
  rw [show (placedBackends s).map (·.2.id) = ((placedBackends s).map (·.2)).map (·.id) from
    (List.map_map).symm] at hids
  exact hids.sublist (List.filter_sublist.map _)

/-! ## Allowed hosts -/

theorem ne_of_mem_allowedHosts {raw host : String} (h : host ∈ allowedHosts raw) : host ≠ "" := by
  unfold allowedHosts at h
  obtain ⟨entry, -, hentry⟩ := List.mem_filterMap.mp (Text.mem_distinct.mp h)
  unfold allowedHost at hentry
  dsimp only at hentry
  split at hentry
  · cases hentry
  · split at hentry
    · next url _ =>
      rw [nonEmpty?_eq] at hentry
      dsimp only at hentry
      simpa using (Option.filter_eq_some_iff.mp hentry).2
    · cases hentry

/-- The table of a registry of allowed hosts is well formed: it has no listed backends. -/
theorem wellFormed_ofAllowed (s : Source) (raw : String) :
    (Registry.ofAllowed s raw).1.hosts.backends.WellFormed := by
  unfold HostTable.backends
  rw [hosts_ofAllowed, HostTable.mapValues_ofList, List.map_map]
  have hshared : ∀ p ∈ (allowedHosts raw).map fun h => (h, Backend.shared (Registry.sharedSecret s)),
      p.1 ∈ allowedHosts raw ∧ p.2 = .shared (Registry.sharedSecret s) := by
    intro p hp
    obtain ⟨host, hhost, rfl⟩ := List.mem_map.mp hp
    exact ⟨hhost, rfl⟩
  refine wellFormed_ofList ?_ ?_ ?_
  · exact fun p hp => ne_of_mem_allowedHosts (hshared p hp).1
  · intro p hp hcompat
    rw [(hshared p hp).2] at hcompat
    cases hcompat
  · have hnone : ((((allowedHosts raw).map fun h =>
        (h, Backend.shared (Registry.sharedSecret s))).map (·.2)).filter (!·.compat)) = [] := by
      rw [List.filter_eq_nil_iff]
      intro b hb
      obtain ⟨p, hp, rfl⟩ := List.mem_map.mp hb
      rw [(hshared p hp).2]
      exact Bool.false_ne_true
    exact hnone ▸ List.nodup_nil

theorem wellFormed_nil : HostTable.WellFormed [] :=
  ⟨fun _ hp => (nomatch hp), fun _ hp => (nomatch hp), fun _ hp => (nomatch hp), List.nodup_nil⟩

/-! ## Registries -/

theorem wellFormed_ofSource (s : Source) : (Registry.ofSource s).1.hosts.backends.WellFormed := by
  rcases ofSource_cases s with hempty | hlisted | ⟨raw, hallowed⟩
  · rw [hempty]
    exact wellFormed_nil
  · rw [hlisted, backends_ofBackends]
    exact wellFormed_configuredTable s
  · rw [hallowed]
    exact wellFormed_ofAllowed s raw

theorem wellFormed_reloadAll (start : Source) (run : List Source) :
    ((Registry.ofSource start).1.reloadAll run).hosts.backends.WellFormed := by
  rw [backends_reloadAll]
  rcases settledTable_cases (Registry.ofSource start).1.hosts.backends run with
    ⟨htable, -⟩ | ⟨s, -, -, htable⟩
  · rw [htable]
    exact wellFormed_ofSource start
  · rw [htable]
    exact wellFormed_configuredTable s

theorem reloadAll_of_not_listsBackends (r : Registry) {run : List Source}
    (h : ∀ s ∈ run, listsBackends s = false) : r.reloadAll run = r := by
  induction run with
  | nil => rfl
  | cons s rest ih =>
    rw [Registry.reloadAll, reload_of_not_listsBackends r (h s List.mem_cons_self)]
    exact ih fun t ht => h t (List.mem_cons_of_mem s ht)

/-- Hosts are allowed by name: neither do the settings of the start allow all hosts, nor have any
    settings listed backends so far. -/
structure AllowsByName (start : Source) (run : List Source) : Prop where
  notAll : allowsAllHosts start = false
  notListed : listsBackends start = false
  named : (Registry.allowedSetting start).isSome = true
  neverListed : ∀ s ∈ run, listsBackends s = false

/-- No listed backend has an empty URL. -/
theorem url_ne_of_mem_configuredTable {s : Source} {p : String × List Backend}
    (hp : p ∈ configuredTable s) {b : Backend} (hb : b ∈ p.2) : b.url ≠ "" := by
  have hrow := HostTable.row_of_mem (HostTable.kept_ofList (placedBackends s)) hp
  have hmem : b ∈ (configuredTable s).row p.1 := by
    unfold configuredTable
    rw [hrow]
    exact hb
  obtain ⟨id, -, url, secret, -, -, rfl⟩ := mem_row_configuredTable.mp hmem
  exact ((wellFormed_configuredTable s).placed p hp _ hb rfl).url_ne

theorem shared_ofAllowed (s : Source) (raw : String) :
    (Registry.ofAllowed s raw).1.shared =
      if allowedHosts raw = [] then none else some ⟨0, .shared (Registry.sharedSecret s)⟩ := by
  unfold Registry.ofAllowed
  dsimp only
  split
  · next h => rw [if_pos (List.isEmpty_iff.mp h)]
  · next h => rw [if_neg fun hnil => h (List.isEmpty_iff.mpr hnil)]

/-- Every row of a registry of allowed hosts has the shared entry alone. -/
theorem row_shared_ofAllowed {s : Source} {raw : String} {p : String × List Entry}
    (hp : p ∈ (Registry.ofAllowed s raw).1.hosts) :
    p.2 = [⟨0, .shared (Registry.sharedSecret s)⟩] ∧
      (Registry.ofAllowed s raw).1.shared = some ⟨0, .shared (Registry.sharedSecret s)⟩ := by
  rw [hosts_ofAllowed] at hp
  have hkept := HostTable.kept_ofList
    ((allowedHosts raw).map fun h => (h, (⟨0, .shared (Registry.sharedSecret s)⟩ : Entry)))
  have hrow := HostTable.row_of_mem hkept hp
  have hnodup : (allowedHosts raw).Nodup := Text.nodup_distinct _
  rw [HostTable.row_ofList_const hnodup] at hrow
  split at hrow
  · next hhost =>
    refine ⟨hrow.symm, ?_⟩
    rw [shared_ofAllowed, if_neg (List.ne_nil_of_mem hhost)]
  · exact absurd hrow.symm (hkept.filled p hp)

/-- At the start an entry with an empty URL is the shared one, alone under an allowed host. -/
theorem shared_of_url_empty_start (start : Source) {p : String × List Entry}
    (hp : p ∈ (Registry.ofSource start).1.hosts) {e : Entry} (he : e ∈ p.2)
    (hurl : e.backend.url = "") :
    (Registry.ofSource start).1.shared = some e ∧ p.2 = [e] ∧ AllowsByName start [] := by
  have hbackend : e.backend ∈ p.2.map (·.backend) := List.mem_map_of_mem he
  have hrow := HostTable.mem_mapValues (·.backend) hp
  cases hall : allowsAllHosts start with
  | true =>
    rw [ofSource_of_allowsAllHosts hall] at hp
    cases hp
  | false =>
    cases hlists : listsBackends start with
    | true =>
      rw [ofSource_of_listsBackends hall hlists] at hrow
      change _ ∈ (Registry.ofBackends start).1.hosts.backends at hrow
      rw [backends_ofBackends] at hrow
      exact absurd hurl (url_ne_of_mem_configuredTable hrow hbackend)
    | false =>
      cases hallowed : Registry.allowedSetting start with
      | none =>
        rw [ofSource_of_nothing hall hlists hallowed] at hp
        cases hp
      | some raw =>
        rw [ofSource_of_allowedSetting hall hlists hallowed] at hp ⊢
        obtain ⟨hrow, hshared⟩ := row_shared_ofAllowed hp
        rw [hrow] at he ⊢
        rw [List.mem_singleton.mp he]
        refine ⟨hshared, rfl, hall, hlists, ?_, fun s hs => nomatch hs⟩
        rw [hallowed]
        rfl

/-- A registry has the shared entry exactly if it allows all hosts or has the names of some. -/
theorem shared_ofSource_isSome_iff (s : Source) :
    (Registry.ofSource s).1.shared.isSome = true ↔
      allowsAllHosts s = true ∨ (allowsAllHosts s = false ∧ listsBackends s = false ∧
        ∃ raw, Registry.allowedSetting s = some raw ∧ allowedHosts raw ≠ []) := by
  cases hall : allowsAllHosts s with
  | true =>
    rw [ofSource_of_allowsAllHosts hall]
    exact ⟨fun _ => .inl rfl, fun _ => rfl⟩
  | false =>
    cases hlists : listsBackends s with
    | true =>
      rw [ofSource_of_listsBackends hall hlists]
      simp [Registry.ofBackends]
    | false =>
      cases hallowed : Registry.allowedSetting s with
      | none =>
        rw [ofSource_of_nothing hall hlists hallowed]
        simp
      | some raw =>
        rw [ofSource_of_allowedSetting hall hlists hallowed, shared_ofAllowed]
        by_cases hnil : allowedHosts raw = [] <;> simp [hnil]

/-- **Every entry of a registry is well formed.** After any run of reloads the table is well formed.
    An entry with an empty URL in it is the shared entry, it stands alone under its host key, and
    the registry allows hosts by name and has not taken over any settings that list backends. The
    registry has a shared entry exactly if its start allows all hosts, or neither does so nor lists
    backends and names at least one host. -/
theorem registry_wellFormed (start : Source) (run : List Source) :
    let r := (Registry.ofSource start).1.reloadAll run
    r.hosts.backends.WellFormed ∧
      (∀ p ∈ r.hosts, ∀ e ∈ p.2, e.backend.url = "" →
        r.shared = some e ∧ p.2 = [e] ∧ AllowsByName start run) ∧
      (r.shared.isSome = true ↔
        allowsAllHosts start = true ∨ (allowsAllHosts start = false ∧ listsBackends start = false ∧
          ∃ raw, Registry.allowedSetting start = some raw ∧ allowedHosts raw ≠ [])) := by
  intro r
  obtain ⟨-, -, hshared⟩ := frame_reloadAll (Registry.ofSource start).1 run
  refine ⟨wellFormed_reloadAll start run, ?_, ?_⟩
  · intro p hp e he hurl
    rcases settledTable_cases (Registry.ofSource start).1.hosts.backends run with
      ⟨-, hnever⟩ | ⟨s, -, -, htable⟩
    · -- Without listed backends in the run the table is still that of the start.
      have hr : r = (Registry.ofSource start).1 := reloadAll_of_not_listsBackends _ hnever
      rw [hr] at hp ⊢
      obtain ⟨hsome, halone, hnames⟩ := shared_of_url_empty_start start hp he hurl
      exact ⟨hsome, halone, { hnames with neverListed := hnever }⟩
    · have hrow : (p.1, p.2.map (·.backend)) ∈ r.hosts.backends :=
        HostTable.mem_mapValues (·.backend) hp
      rw [show r.hosts.backends = _ from backends_reloadAll _ run, htable] at hrow
      exact absurd hurl (url_ne_of_mem_configuredTable hrow (List.mem_map_of_mem he))
  · rw [show r.shared = _ from hshared]
    exact shared_ofSource_isSome_iff start

/-- Settings that allow the host `h` by name. -/
def namedHost : Source := textSettings [("backend", [("allowed", "h"), ("secret", "common")])]

theorem registry_wellFormed_named :
    let r := (Registry.ofSource namedHost).1.reloadAll [namedHost]
    let e : Entry := ⟨0, .shared (.ofText "common")⟩
    ("h", [e]) ∈ r.hosts ∧ e.backend.url = "" ∧ r.shared = some e ∧
      AllowsByName namedHost [namedHost] := by
  intro r e
  have hrow : ("h", [e]) ∈ r.hosts := by decide +kernel
  obtain ⟨-, hempty, -⟩ := registry_wellFormed namedHost [namedHost]
  obtain ⟨hshared, -, hnames⟩ := hempty _ hrow e (List.mem_singleton.mpr rfl) rfl
  exact ⟨hrow, rfl, hshared, hnames⟩

end Switchboard.Tenancy
