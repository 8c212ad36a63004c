import Switchboard.Proofs.Directory
import Switchboard.Settings.Fault
/-
  What settings without faults can be read for. A value that holds others is found as a fault, and
  every single value has a text, with one exception: dates and times are neither found nor read
  (`isSome_textOf?_iff`). So in a snapshot without faults every entry is a section, and a key that
  is there has a text exactly if its value is no date or time (`faultless_readable_iff`).
-/
namespace Switchboard.Settings

open Toml (Value Table)

/-! ## Values -/

/-- A value has a text exactly if it neither holds others nor is a date or a time. -/
theorem isSome_textOf?_iff (v : Value) :
    (Snapshot.textOf? v).isSome = true ↔ isNested v = false ∧ ∀ written, v ≠ .moment written := by
  cases v with
  | text s | integer n | real x | flag b => exact ⟨fun _ => ⟨rfl, nofun⟩, fun _ => rfl⟩
  | moment written => exact ⟨nofun, fun h => absurd rfl (h.2 written)⟩
  | list items | table entries => exact ⟨nofun, fun h => nomatch h.1⟩

theorem table?_eq_some {v : Value} {t : Table} (h : v.table? = some t) : v = .table t := by
  cases v with
  | table entries => cases h; rfl
  | _ => cases h

/-! ## Entries -/

/-- An entry without faults is a section, and holds single values only. -/
theorem entryFaults_eq_nil {name : String} {v : Value} (h : entryFaults name v = []) :
    ∃ t, v = .table t ∧ ∀ p ∈ t, isNested p.2 = false := by
  unfold entryFaults at h
  cases ht : v.table? with
  | none =>
    rw [ht] at h
    cases h
  | some t =>
    rw [ht] at h
    refine ⟨t, table?_eq_some ht, fun p hp => ?_⟩
    have hnone := List.filter_eq_nil_iff.mp (List.map_eq_nil_iff.mp h) p hp
    exact eq_false_of_ne_true hnone

theorem entryFaults_of_faults {s : Snapshot} (h : s.faults = []) {p : String × Value}
    (hp : p ∈ s.sections) : entryFaults p.1 p.2 = [] := by
  unfold Snapshot.faults at h
  exact List.flatMap_eq_nil_iff.mp (List.append_eq_nil_iff.mp h).1 p hp

/-! ## Snapshots -/

theorem value?_of_section {s : Snapshot} {sec : String} {t : Table}
    (h : s.sections.find? sec = some (.table t)) (key : String) :
    s.value? sec key = t.find? key := by
  unfold Snapshot.value?
  rw [h]
  rfl

/-- **What settings without faults can be read for.** In a snapshot without faults every entry is a
    section. A key of a section has a text exactly if the value under it is no date or time. -/
theorem faultless_readable_iff (s : Snapshot) (hfaults : s.faults = []) :
    (∀ p ∈ s.sections, ∃ t, p.2 = .table t) ∧
      ∀ sec (t : Table), s.sections.find? sec = some (.table t) → ∀ key ∈ t.names,
        ((s.source.text? sec key).isSome = true ↔
          ∀ written, t.find? key ≠ some (.moment written)) := by
  refine ⟨fun p hp => ?_, fun sec t hsec key hkey => ?_⟩
  · obtain ⟨t, ht, -⟩ := entryFaults_eq_nil (entryFaults_of_faults hfaults hp)
    exact ⟨t, ht⟩
  · obtain ⟨v, hv⟩ : ∃ v, t.find? key = some v := by
      cases hfind : t.find? key with
      | some v => exact ⟨v, rfl⟩
      | none =>
        have hnone : (t.find? key).isNone = true := by rw [hfind]; rfl
        exact absurd hkey (Directory.find?_isNone_iff.mp hnone)
    have hsingle : isNested v = false := by
      obtain ⟨t', ht, hall⟩ :=
        entryFaults_eq_nil (entryFaults_of_faults hfaults (Directory.mem_of_find? hsec))
      cases ht
      exact hall _ (Directory.mem_of_find? hv)
    have htext : s.source.text? sec key = Snapshot.textOf? v := by
      have hvalue := value?_of_section hsec key
      unfold Snapshot.source
      dsimp only
      rw [hvalue, hv, Option.bind_some]
    rw [htext, isSome_textOf?_iff, hv]
    simp only [hsingle, true_and, ne_eq, Option.some.injEq]

/-- Settings of a tenant with a date in the place of its URL. -/
def dated : Snapshot :=
  ⟨[("tenant", .table [("secret", .text "s"), ("url", .moment "1979-05-27")])]⟩

theorem faultless_readable_iff_dated :
    dated.faults = [] ∧ (dated.source.text? "tenant" "secret").isSome = true ∧
      (dated.source.text? "tenant" "url").isSome = false := by
  have hfaults : dated.faults = [] := by decide
  have hread := (faultless_readable_iff dated hfaults).2 "tenant" _ rfl
  refine ⟨hfaults, (hread "secret" (by decide)).mpr (fun written h => nomatch h), ?_⟩
  exact eq_false_of_ne_true fun h => (hread "url" (by decide)).mp h "1979-05-27" rfl

/-- Settings without faults may have a key that has no text. -/
theorem faultless_unreadable :
    ¬ ∀ s : Snapshot, s.faults = [] →
      (∀ p ∈ s.sections, ∃ t, p.2 = .table t) ∧
        ∀ sec (t : Table), s.sections.find? sec = some (.table t) → ∀ key ∈ t.names,
          (s.source.text? sec key).isSome = true := by
  intro h
  have htext := (h dated (by decide)).2 "tenant" _ rfl "url" (by decide)
  cases htext

end Switchboard.Settings
