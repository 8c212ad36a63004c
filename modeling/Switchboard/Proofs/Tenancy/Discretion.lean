import Mathlib.Tactic.SplitIfs
import Switchboard.Proofs.Tenancy.Answers
/-
  Secrets show nowhere. Two settings that differ in secrets alone, and agree on which sections have
  one (`DifferInSecrets`), are followed through everything that is made of them. A section of the
  one is in order exactly if it is in the other, and its backend has the same outline, all that can
  be seen of a backend but for its secret (`outline_configured`). What is placed in the tables, what
  is reported and what a URL belongs to are then read off the outlines; `Registry.Alike` carries
  this from the start of a registry (`startAlike_ofSource`) to its answers
  (`Registry.Alike.outline_resolve?`).
-/
namespace Switchboard.Tenancy

open Switchboard.Settings (Source)

/-! ## Settings and backends without their secrets -/

/-- Whether a section has a secret that is not empty. -/
def HasSecret (s : Source) (sec : String) : Prop := (nonEmpty? (s.text? sec "secret")).isSome = true

/-- Settings that differ in secrets alone, where the same sections have one. -/
structure DifferInSecrets (s t : Source) : Prop where
  text : ∀ sec key, key ≠ "secret" → s.text? sec key = t.text? sec key
  flag : ∀ sec key, key ≠ "secret" → s.flag? sec key = t.flag? sec key
  given : ∀ sec, HasSecret s sec ↔ HasSecret t sec

/-- What can be seen of a backend. -/
structure Outline where
  id : String
  url : String
  compat : Bool
  /-- The backend for a human reader. -/
  description : String
  deriving DecidableEq

/-- All that a backend is, but for its secret. -/
def Backend.outline (b : Backend) : Outline := ⟨b.id, b.url, b.compat, b.describe⟩

/-- Whether the normalized text of a URL belongs to the backends of an outline. -/
def Outline.claims (o : Outline) (normalized : String) : Bool :=
  o.url.isEmpty || Text.begins o.url.toList normalized.toList

/-! ## Sections -/

section

variable {s t : Source}

theorem outline_configured (h : DifferInSecrets s t) (id : String) :
    (configured s id).map (fun p => (p.1, p.2.outline)) =
      (configured t id).map (fun p => (p.1, p.2.outline)) := by
  have hurl : s.text? id "url" = t.text? id "url" := h.text id "url" (by decide)
  have hgiven := h.given id
  unfold HasSecret at hgiven
  unfold configured
  rw [hurl]
  -- Up to the secret both sections are read alike.
  split
  · rfl
  · dsimp only
    split
    · rfl
    · split
      · rfl
      · cases hs : nonEmpty? (s.text? id "secret") with
        | none =>
          rw [hs] at hgiven
          rw [Option.not_isSome_iff_eq_none.mp fun hsome => nomatch hgiven.mpr hsome]
        | some secret =>
          rw [hs] at hgiven
          obtain ⟨secret', ht⟩ := Option.isSome_iff_exists.mp (hgiven.mp rfl)
          rw [ht]
          rfl

theorem backendIds_eq (h : DifferInSecrets s t) : backendIds s = backendIds t :=
  backendIds_congr (h.text mainSection "backends" (by decide))

theorem configuredNotices_eq (h : DifferInSecrets s t) :
    configuredNotices s = configuredNotices t := by
  unfold configuredNotices
  rw [backendIds_eq h]
  congr 1
  funext id
  have hid := outline_configured h id
  cases hs : configured s id with
  | ok p =>
    cases ht : configured t id with
    | ok q => rfl
    | error n =>
      rw [hs, ht] at hid
      cases hid
  | error n =>
    cases ht : configured t id with
    | ok q =>
      rw [hs, ht] at hid
      cases hid
    | error n' =>
      rw [hs, ht] at hid
      rw [Except.error.inj hid]

/-- The same outlines are placed under the same host keys, in the same order. -/
theorem outline_placedBackends (h : DifferInSecrets s t) :
    (placedBackends s).map (fun p => (p.1, p.2.outline)) =
      (placedBackends t).map (fun p => (p.1, p.2.outline)) := by
  have htoOption : ∀ x : Except Notice Placed,
      x.toOption.map (fun p => (p.1, p.2.outline)) =
        (x.map fun p => (p.1, p.2.outline)).toOption := by
    intro x
    cases x <;> rfl
  unfold placedBackends
  rw [backendIds_eq h, List.map_filterMap, List.map_filterMap]
  congr 1
  funext id
  rw [htoOption, htoOption, outline_configured h id]

/-! ## Tables -/

namespace HostTable

/-- What can be seen of a table: under each host key the outlines of its backends. -/
def outlines (t : HostTable Entry) : HostTable Outline := t.backends.mapValues Backend.outline

theorem values_mapValues {α β : Type} (f : α → β) (t : HostTable α) :
    (t.mapValues f).values = t.values.map f := by
  unfold values mapValues
  rw [List.flatMap_map, List.map_flatMap]

theorem row_outlines (t : HostTable Entry) (host : String) :
    t.outlines.row host = (t.row host).map (·.backend.outline) := by
  unfold outlines
  rw [row_mapValues, row_backends, List.map_map]
  rfl

theorem values_outlines (t : HostTable Entry) :
    t.outlines.values = t.values.map (·.backend.outline) := by
  unfold outlines backends
  rw [values_mapValues, values_mapValues, List.map_map]
  rfl

theorem outlines_ofList (placed : List (String × Entry)) :
    outlines (.ofList placed) = .ofList (placed.map fun p => (p.1, p.2.backend.outline)) := by
  unfold outlines backends
  rw [mapValues_ofList, mapValues_ofList, List.map_map]
  rfl

end HostTable

theorem outlines_stampedTable (h : DifferInSecrets s t) (first : Nat) :
    (stampedTable s first).outlines = (stampedTable t first).outlines := by
  unfold HostTable.outlines
  rw [stampedTable_backends, stampedTable_backends]
  unfold configuredTable
  rw [HostTable.mapValues_ofList, HostTable.mapValues_ofList, outline_placedBackends h]

/-! ## Registries -/

/-- Registries that cannot be told apart but for the secrets in them. -/
structure Registry.Alike (r r' : Registry) : Prop where
  table : r.hosts.outlines = r'.hosts.outlines
  allowAll : r.allowAll = r'.allowAll
  shared : r.shared.map (·.backend.outline) = r'.shared.map (·.backend.outline)

theorem outline_listed? (r : Registry) (u : Url) :
    (r.listed? u).map (·.backend.outline) =
      (r.hosts.outlines.row u.hostKey).find? (·.claims u.normalized) := by
  unfold Registry.listed?
  rw [HostTable.row_outlines, List.find?_map]
  rfl

/-- What can be seen of a table is all that its registry goes by to find whom a URL belongs to. -/
theorem Registry.Alike.outline_resolve? {r r' : Registry} (h : r.Alike r') (u : Url) :
    (r.resolve? u).map (·.backend.outline) = (r'.resolve? u).map (·.backend.outline) := by
  have hfallback : r.fallback?.map (·.backend.outline) = r'.fallback?.map (·.backend.outline) := by
    unfold Registry.fallback?
    rw [h.allowAll]
    split
    · exact h.shared
    · rfl
  rw [resolve?_eq_or, resolve?_eq_or, Option.map_or, Option.map_or, outline_listed?,
    outline_listed?, h.table, hfallback]

theorem allowedSetting_eq (h : DifferInSecrets s t) :
    Registry.allowedSetting s = Registry.allowedSetting t :=
  allowedSetting_congr (h.text mainSection "allowed" (by decide))

/-- Two starts that make registries alike and report the same. -/
def StartAlike (x y : Registry × List Notice) : Prop := x.1.Alike y.1 ∧ x.2 = y.2

theorem startAlike_ofBackends (h : DifferInSecrets s t) :
    StartAlike (Registry.ofBackends s) (Registry.ofBackends t) := by
  have htable := outlines_stampedTable h 0
  have hadded : ∀ table : HostTable Entry,
      (table.values.map fun e => Notice.backendAdded e.backend.id e.backend.url) =
        table.outlines.values.map fun o => Notice.backendAdded o.id o.url := by
    intro table
    rw [HostTable.values_outlines, List.map_map]
    rfl
  refine ⟨⟨htable, rfl, rfl⟩, ?_⟩
  unfold Registry.ofBackends
  dsimp only
  rw [hadded, hadded, htable, allowedSetting_eq h, configuredNotices_eq h]

theorem startAlike_ofAllowed (s t : Source) (raw : String) :
    StartAlike (Registry.ofAllowed s raw) (Registry.ofAllowed t raw) := by
  have htable : (Registry.ofAllowed s raw).1.hosts.outlines =
      (Registry.ofAllowed t raw).1.hosts.outlines := by
    rw [hosts_ofAllowed, hosts_ofAllowed, HostTable.outlines_ofList, HostTable.outlines_ofList,
      List.map_map, List.map_map]
    rfl
  unfold Registry.ofAllowed at htable ⊢
  dsimp only at htable ⊢
  split at htable
  · next hempty =>
    rw [if_pos hempty, if_pos hempty]
    exact ⟨⟨rfl, rfl, rfl⟩, rfl⟩
  · next hempty =>
    rw [if_neg hempty, if_neg hempty]
    exact ⟨⟨htable, rfl, rfl⟩, rfl⟩

/-- Whatever the mode, the secrets make no difference to what a start reports and shows. -/
theorem startAlike_ofSource (h : DifferInSecrets s t) :
    StartAlike (Registry.ofSource s) (Registry.ofSource t) := by
  have hlists : listsBackends s = listsBackends t :=
    listsBackends_congr (h.text mainSection "backends" (by decide))
  unfold Registry.ofSource
  rw [h.flag mainSection "allowall" (by decide), hlists, allowedSetting_eq h]
  split
  · exact ⟨⟨rfl, rfl, rfl⟩, rfl⟩
  · split
    · exact startAlike_ofBackends h
    · split
      · next raw _ => exact startAlike_ofAllowed s t raw
      · exact ⟨⟨rfl, rfl, rfl⟩, rfl⟩

end

/-- **Secrets influence nothing but themselves.** Two settings that differ in secrets alone, and of
    which the same sections have one, report the same, the faults of sections in the same order; the
    tables that they make have the same host keys, with backends of the same outline in the same
    places; and every URL belongs to backends of the same outline in both, or to none in both. -/
theorem secrets_stay_inside (s t : Source) (h : DifferInSecrets s t) :
    let r := (Registry.ofSource s).1
    let r' := (Registry.ofSource t).1
    (Registry.ofSource s).2 = (Registry.ofSource t).2 ∧
      configuredNotices s = configuredNotices t ∧
      r.hostKeys = r'.hostKeys ∧ r.hosts.outlines = r'.hosts.outlines ∧
      ∀ u, (r.resolve? u).map (·.backend.outline) = (r'.resolve? u).map (·.backend.outline) := by
  intro r r'
  obtain ⟨halike, hnotices⟩ := startAlike_ofSource h
  have hkeys : ∀ q : Registry, q.hostKeys = q.hosts.outlines.names := by
    intro q
    unfold Registry.hostKeys HostTable.outlines HostTable.backends HostTable.mapValues
      Directory.names
    rw [List.map_map, List.map_map]
    rfl
  refine ⟨hnotices, configuredNotices_eq h, ?_, halike.table, halike.outline_resolve?⟩
  rw [hkeys, hkeys, halike.table]

/-- A tenant with a secret, one whose secret is missing or empty, and one whose URL cannot be
    read. -/
def threeSections (secret : String) (poor : List (String × String)) : Source := textSettings
  [("backend", [("backends", "good, poor, bad")]),
    ("bad", [("secret", secret), ("url", "https://[")]),
    ("good", [("secret", secret), ("url", "https://h/")]), ("poor", poor)]

/-- One has an empty secret where the other has none, and elsewhere their secrets differ. -/
theorem differInSecrets_threeSections :
    DifferInSecrets (threeSections "first" [("url", "https://g/")])
      (threeSections "second" [("secret", ""), ("url", "https://g/")]) := by
  constructor
  case text | flag =>
    intro sec key hkey
    simp only [threeSections, textSettings, Settings.Snapshot.source, value?_texts, Directory.find?]
    split_ifs <;> simp [Directory.find?, Ne.symm hkey]
  case given =>
    intro sec
    unfold HasSecret
    simp only [threeSections, textSettings, Settings.Snapshot.source, value?_texts, Directory.find?]
    split_ifs <;> simp [Directory.find?, nonEmpty?_eq, Settings.Snapshot.textOf?]

theorem secrets_stay_inside_threeSections :
    let s := threeSections "first" [("url", "https://g/")]
    let t := threeSections "second" [("secret", ""), ("url", "https://g/")]
    DifferInSecrets s t ∧ (Registry.ofSource s).2 = (Registry.ofSource t).2 ∧
      ((Registry.ofSource s).1.resolve? (urlOnH "/")).map (·.backend.outline) =
        ((Registry.ofSource t).1.resolve? (urlOnH "/")).map (·.backend.outline) ∧
      (Registry.ofSource s).1.resolve? (urlOnH "/") ≠
        (Registry.ofSource t).1.resolve? (urlOnH "/") := by
  intro s t
  have hdiffer : DifferInSecrets s t := differInSecrets_threeSections
  obtain ⟨hnotices, -, -, -, hanswers⟩ := secrets_stay_inside s t hdiffer
  exact ⟨hdiffer, hnotices, hanswers _, by decide +kernel⟩

end Switchboard.Tenancy
