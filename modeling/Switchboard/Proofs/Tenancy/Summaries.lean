import Mathlib
import Switchboard.Proofs.Tenancy.Tables
import Switchboard.Tenancy.Reload
/-
  What a summary counts. The counts of a reload are sums over the rows of the target
  (`changes_eq`), so a summary that reports no change leaves no room for any: every row has the
  same backends as before (`mem_row_of_isUnchanged`). It says nothing about their order.
-/
namespace Switchboard.Tenancy

/-! ## One row -/

theorem sameBackend?_isSome_iff {existing : List Entry} {e : Entry} :
    (sameBackend? existing e).isSome = true ↔ e.backend ∈ existing.map (·.backend) := by
  unfold sameBackend?
  rw [List.find?_isSome, List.mem_map]
  simp only [beq_iff_eq]

theorem sameBackend?_isNone_iff {existing : List Entry} {e : Entry} :
    (sameBackend? existing e).isNone = true ↔ e.backend ∉ existing.map (·.backend) := by
  rw [← sameBackend?_isSome_iff, Option.isNone_iff_eq_none, Option.not_isSome_iff_eq_none]

theorem addedEntries_eq_nil_iff {existing wanted : List Entry} :
    addedEntries existing wanted = [] ↔
      ∀ e ∈ wanted, e.backend ∈ existing.map (·.backend) := by
  unfold addedEntries
  simp only [List.filter_eq_nil_iff, sameBackend?_isNone_iff, not_not]

theorem removedEntries_eq_nil_iff {existing wanted : List Entry} :
    removedEntries existing wanted = [] ↔
      ∀ e ∈ existing, e.backend ∈ wanted.map (·.backend) := addedEntries_eq_nil_iff

/-! ## All rows -/

/-- What is counted for the rows of a target adds up, on top of what has been counted before. -/
theorem foldl_count (current target : HostTable Entry) (s : Summary) :
    target.foldl (fun s p => s.count (current.row p.1) p.2) s =
      { kept := s.kept + (target.map fun p => (keptEntries (current.row p.1) p.2).length).sum
        added := s.added + (target.map fun p => (addedEntries (current.row p.1) p.2).length).sum
        removed :=
          s.removed + (target.map fun p => (removedEntries (current.row p.1) p.2).length).sum
        hostsRemoved := s.hostsRemoved } := by
  induction target generalizing s with
  | nil => rfl
  | cons p rest ih =>
    rw [List.foldl_cons, ih]
    simp only [Summary.count, List.map_cons, List.sum_cons, Nat.add_assoc]

theorem changes_eq (current target : HostTable Entry) :
    changes current target =
      { kept := (target.map fun p => (keptEntries (current.row p.1) p.2).length).sum
        added := (target.map fun p => (addedEntries (current.row p.1) p.2).length).sum
        removed := (droppedHosts current target).values.length +
          (target.map fun p => (removedEntries (current.row p.1) p.2).length).sum
        hostsRemoved := (droppedHosts current target).names } := by
  unfold changes
  dsimp only
  rw [foldl_count]
  simp only [Nat.zero_add]

/-! ## No change -/

theorem mem_row_iff {α : Type} {t : HostTable α} {host : String} {a : α} :
    a ∈ t.row host ↔ ∃ l, t.find? host = some l ∧ a ∈ l := by
  unfold HostTable.row
  cases t.find? host with
  | none => simp
  | some l => simp

theorem eq_nil_of_sum_length {α β : Type} {l : List α} {f : α → List β}
    (h : (l.map fun a => (f a).length).sum = 0) : ∀ a ∈ l, f a = [] := by
  intro a ha
  have hlen : (f a).length = 0 :=
    List.sum_eq_zero_iff_forall_eq_nat.mp h _ (List.mem_map_of_mem ha)
  exact List.eq_nil_of_length_eq_zero hlen

/-- Without a change no host is dropped, and no row of the target adds or removes anything. -/
theorem rows_of_isUnchanged {current target : HostTable Entry}
    (h : (changes current target).isUnchanged = true) :
    (∀ p ∈ current, (target.find? p.1).isSome = true) ∧
      (∀ p ∈ target, addedEntries (current.row p.1) p.2 = []) ∧
      ∀ p ∈ target, removedEntries (current.row p.1) p.2 = [] := by
  rw [changes_eq] at h
  simp only [Summary.isUnchanged, Bool.and_eq_true, beq_iff_eq, List.isEmpty_iff] at h
  obtain ⟨⟨hadded, hremoved⟩, hdropped⟩ := h
  have hnone : droppedHosts current target = [] := List.map_eq_nil_iff.mp hdropped
  refine ⟨?_, eq_nil_of_sum_length hadded, ?_⟩
  · intro p hp
    have hfind := List.filter_eq_nil_iff.mp hnone p hp
    rw [Option.isNone_iff_eq_none] at hfind
    exact Option.isSome_iff_ne_none.mpr hfind
  · exact eq_nil_of_sum_length (Nat.add_eq_zero_iff.mp hremoved).2

/-- Without a change every row has the same backends in both tables. -/
theorem mem_row_of_isUnchanged {current target : HostTable Entry}
    (h : (changes current target).isUnchanged = true) (host : String) (b : Backend) :
    b ∈ current.backends.row host ↔ b ∈ target.backends.row host := by
  obtain ⟨hkept, hadded, hremoved⟩ := rows_of_isUnchanged h
  rw [HostTable.row_backends, HostTable.row_backends]
  constructor
  · intro hb
    obtain ⟨e, he, rfl⟩ := List.mem_map.mp hb
    obtain ⟨l, hl, hel⟩ := mem_row_iff.mp he
    obtain ⟨w, hw⟩ := Option.isSome_iff_exists.mp (hkept _ (Directory.mem_of_find? hl))
    have hrow : target.row host = w := by
      unfold HostTable.row
      rw [hw]
      rfl
    rw [hrow]
    exact removedEntries_eq_nil_iff.mp (hremoved _ (Directory.mem_of_find? hw)) e he
  · intro hb
    obtain ⟨e, he, rfl⟩ := List.mem_map.mp hb
    obtain ⟨w, hw, hew⟩ := mem_row_iff.mp he
    exact addedEntries_eq_nil_iff.mp (hadded _ (Directory.mem_of_find? hw)) e hew

end Switchboard.Tenancy
