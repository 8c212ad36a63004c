import Switchboard.Proofs.Tenancy.Sections
/-
  What a registry answers, and what it starts with. All answers are read off the table and the
  fallback (`backend_resolve?`), so two registries that agree in these answer alike. A registry
  starts in one of three modes, or with nothing: allowing all hosts, with the listed backends, or
  with the allowed hosts, each of which has the shared backend alone (`row_ofAllowed`).
-/
namespace Switchboard.Tenancy

open Switchboard.Settings (Source)

/-! ## Answers -/

/-- The entry of the URLs that no listed backend claims. -/
def Registry.fallback? (r : Registry) : Option Entry := if r.allowAll then r.shared else none

theorem backend_listed? (r : Registry) (u : Url) :
    (r.listed? u).map (·.backend) = r.hosts.backends.firstClaim? u := by
  unfold Registry.listed? HostTable.firstClaim?
  rw [HostTable.row_backends, List.find?_map]
  rfl

theorem resolve?_eq_or (r : Registry) (u : Url) :
    r.resolve? u = (r.listed? u).or r.fallback? := by
  unfold Registry.resolve? Registry.fallback?
  cases r.listed? u <;> rfl

/-- A URL belongs to the first backend that claims it, and otherwise to the fallback. -/
theorem backend_resolve? (r : Registry) (u : Url) :
    (r.resolve? u).map (·.backend) =
      (r.hosts.backends.firstClaim? u).or (r.fallback?.map (·.backend)) := by
  rw [resolve?_eq_or, Option.map_or, backend_listed?]

theorem allows_some (r : Registry) (u : Url) :
    r.allows (some u) = ((r.resolve? u).map (·.backend)).isSome := by
  rw [Option.isSome_map]
  rfl

theorem secret?_some (r : Registry) (u : Url) :
    r.secret? (some u) = ((r.resolve? u).map (·.backend)).map (·.secret) := by
  rw [Option.map_map]
  rfl

theorem claims_shared (secret : Secret) (text : String) :
    (Backend.shared secret).claims text = true := rfl

/-! ## Starts -/

/-- Whether the settings allow all hosts. -/
def allowsAllHosts (s : Source) : Bool := (s.flag? mainSection "allowall").getD false

theorem ofSource_of_allowsAllHosts {s : Source} (h : allowsAllHosts s = true) :
    (Registry.ofSource s).1 = (Registry.ofAllowAll s).1 := by
  unfold allowsAllHosts at h
  unfold Registry.ofSource
  rw [if_pos h]

theorem ofSource_of_listsBackends {s : Source} (h : allowsAllHosts s = false)
    (hl : listsBackends s = true) : (Registry.ofSource s).1 = (Registry.ofBackends s).1 := by
  unfold allowsAllHosts at h
  unfold Registry.ofSource
  rw [if_neg (ne_true_of_eq_false h), if_pos hl]

theorem ofSource_of_allowedSetting {s : Source} (h : allowsAllHosts s = false)
    (hl : listsBackends s = false) {raw : String} (ha : Registry.allowedSetting s = some raw) :
    (Registry.ofSource s).1 = (Registry.ofAllowed s raw).1 := by
  unfold allowsAllHosts at h
  unfold Registry.ofSource
  rw [if_neg (ne_true_of_eq_false h), if_neg (ne_true_of_eq_false hl), ha]

theorem ofSource_of_nothing {s : Source} (h : allowsAllHosts s = false)
    (hl : listsBackends s = false) (ha : Registry.allowedSetting s = none) :
    (Registry.ofSource s).1 = ⟨[], false, Registry.sharedSecret s, none, 0⟩ := by
  unfold allowsAllHosts at h
  unfold Registry.ofSource
  rw [if_neg (ne_true_of_eq_false h), if_neg (ne_true_of_eq_false hl), ha]

/-- A registry starts with an empty table, or with that of the listed backends or of the allowed
    hosts. -/
theorem ofSource_cases (s : Source) :
    (Registry.ofSource s).1.hosts = [] ∨ (Registry.ofSource s).1 = (Registry.ofBackends s).1 ∨
      ∃ raw, (Registry.ofSource s).1 = (Registry.ofAllowed s raw).1 := by
  cases hall : allowsAllHosts s with
  | true =>
    rw [ofSource_of_allowsAllHosts hall]
    exact .inl rfl
  | false =>
    cases hlists : listsBackends s with
    | true => exact .inr (.inl (ofSource_of_listsBackends hall hlists))
    | false =>
      cases hallowed : Registry.allowedSetting s with
      | none =>
        rw [ofSource_of_nothing hall hlists hallowed]
        exact .inl rfl
      | some raw => exact .inr (.inr ⟨raw, ofSource_of_allowedSetting hall hlists hallowed⟩)

theorem allowAll_ofAllowed (s : Source) (raw : String) :
    (Registry.ofAllowed s raw).1.allowAll = false := by
  unfold Registry.ofAllowed
  dsimp only
  split <;> rfl

/-- The mode of a registry is that of the settings it starts with. -/
theorem allowAll_ofSource (s : Source) : (Registry.ofSource s).1.allowAll = allowsAllHosts s := by
  cases h : allowsAllHosts s with
  | true => rw [ofSource_of_allowsAllHosts h]; rfl
  | false =>
    cases hl : listsBackends s with
    | true => rw [ofSource_of_listsBackends h hl]; rfl
    | false =>
      cases ha : Registry.allowedSetting s with
      | some raw => rw [ofSource_of_allowedSetting h hl ha, allowAll_ofAllowed]
      | none => rw [ofSource_of_nothing h hl ha]

theorem fallback?_ofSource {s : Source} (h : allowsAllHosts s = false) :
    (Registry.ofSource s).1.fallback? = none := by
  unfold Registry.fallback?
  rw [allowAll_ofSource, h]
  rfl

theorem hosts_ofBackends (s : Source) : (Registry.ofBackends s).1.hosts = stampedTable s 0 := rfl

/-- A registry of the listed backends has their table. -/
theorem backends_ofBackends (s : Source) :
    (Registry.ofBackends s).1.hosts.backends = configuredTable s := stampedTable_backends s 0

/-- Every allowed host has the same entry. -/
theorem hosts_ofAllowed (s : Source) (raw : String) :
    (Registry.ofAllowed s raw).1.hosts =
      .ofList ((allowedHosts raw).map fun h => (h, ⟨0, .shared (Registry.sharedSecret s)⟩)) := by
  unfold Registry.ofAllowed
  dsimp only
  split
  · next h => rw [List.isEmpty_iff.mp h]; rfl
  · rfl

/-- Under an allowed host a registry of allowed hosts has the shared backend alone. -/
theorem row_ofAllowed (s : Source) (raw host : String) :
    (Registry.ofAllowed s raw).1.hosts.backends.row host =
      if host ∈ allowedHosts raw then [.shared (Registry.sharedSecret s)] else [] := by
  have hnodup : (allowedHosts raw).Nodup := Text.nodup_distinct _
  rw [HostTable.row_backends, hosts_ofAllowed, HostTable.row_ofList_const hnodup]
  split <;> rfl

/-- A registry of allowed hosts answers the shared backend for the URLs of these hosts. -/
theorem firstClaim?_ofAllowed (s : Source) (raw : String) (u : Url) :
    (Registry.ofAllowed s raw).1.hosts.backends.firstClaim? u =
      if u.hostKey ∈ allowedHosts raw then some (.shared (Registry.sharedSecret s)) else none := by
  unfold HostTable.firstClaim?
  rw [row_ofAllowed]
  split
  · exact List.find?_cons_of_pos (claims_shared _ u.normalized)
  · rfl

end Switchboard.Tenancy
