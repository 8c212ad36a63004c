import Mathlib.Data.List.Pairwise
import Switchboard.Proofs.Directory
import Switchboard.Proofs.Tenancy.Tables
/-
  Host tables as contents. The lemmas on rows tell a table by look-ups; the lemmas here tell it by
  what stands in it. Tables that are made by placing values have ascending host keys and no empty
  row (`Kept`), so a row stands in the table exactly if it is what a look-up gives (`row_of_mem`).
  In such a table stands what was placed, each value as often and under its host key
  (`perm_pairs_ofList`), and a row is what stands under its key (`filter_pairs_eq`).
-/
namespace Switchboard.Tenancy.HostTable

variable {α β : Type}

/-- A table whose host keys ascend and each have a value. -/
structure Kept (t : HostTable α) : Prop where
  ascending : Directory.Ascending t
  filled : ∀ p ∈ t, p.2 ≠ []

theorem kept_nil : Kept ([] : HostTable α) := ⟨List.Pairwise.nil, fun _ hp => nomatch hp⟩

theorem kept_push {t : HostTable α} (h : t.Kept) (host : String) (a : α) :
    (t.push host a).Kept := by
  refine ⟨Directory.ascending_insert h.ascending _ _, ?_⟩
  intro p hp
  rcases Directory.mem_insert hp with rfl | hp
  · exact List.append_ne_nil_of_right_ne_nil _ (List.cons_ne_nil a [])
  · exact h.filled p hp

theorem kept_ofList (pairs : List (String × α)) : (ofList pairs).Kept := by
  unfold ofList
  suffices h : ∀ t : HostTable α, t.Kept → (pairs.foldl (fun t p => t.push p.1 p.2) t).Kept from
    h [] kept_nil
  induction pairs with
  | nil => exact fun t ht => ht
  | cons p rest ih => exact fun t ht => ih _ (kept_push ht p.1 p.2)

/-- In a kept table a row is what a look-up of its host key gives. -/
theorem row_of_mem {t : HostTable α} (h : t.Kept) {p : String × List α} (hp : p ∈ t) :
    t.row p.1 = p.2 := by
  unfold row
  rw [Directory.find?_of_mem h.ascending hp]
  rfl

theorem mem_mapValues (f : α → β) {t : HostTable α} {p : String × List α} (hp : p ∈ t) :
    (p.1, p.2.map f) ∈ t.mapValues f := List.mem_map_of_mem hp

/-! ## What stands in a table -/

/-- The values of a table, each with the host key it stands under. -/
def pairs (t : HostTable α) : List (String × α) := t.flatMap fun p => p.2.map (Prod.mk p.1)

theorem pairs_cons (p : String × List α) (t : HostTable α) :
    pairs (p :: t) = p.2.map (Prod.mk p.1) ++ pairs t := List.flatMap_cons

theorem values_eq_pairs (t : HostTable α) : t.values = t.pairs.map (·.2) := by
  unfold values pairs
  rw [List.map_flatMap]
  refine List.flatMap_congr fun p _ => ?_
  rw [List.map_map]
  exact (List.map_id p.2).symm

theorem row_cons (p : String × List α) (t : HostTable α) (host : String) :
    row (p :: t) host = if p.1 = host then p.2 else row t host := by
  unfold row
  rw [Directory.find?]
  split <;> rfl

theorem row_eq_nil_of_lt {t : HostTable α} {host : String} (h : ∀ p ∈ t, host < p.1) :
    t.row host = [] := by
  unfold row
  rw [Directory.find?_eq_none_of_lt h]
  rfl

/-- Placing a value adds it to what stands in a table, at some place among the rest. -/
theorem perm_pairs_push {t : HostTable α} (h : Directory.Ascending t) (host : String) (a : α) :
    (t.push host a).pairs.Perm ((host, a) :: t.pairs) := by
  unfold push
  induction t with
  | nil => exact List.Perm.refl _
  | cons p rest ih =>
    obtain ⟨hlt, hrest⟩ := Directory.ascending_cons.mp h
    rw [Directory.insert]
    split
    · next hn =>
      have hnone : row (p :: rest) host = [] := by
        refine row_eq_nil_of_lt fun q hq => ?_
        rcases List.mem_cons.mp hq with rfl | hq
        · exact hn
        · exact lt_trans hn (hlt q hq)
      rw [hnone]
      exact List.Perm.refl _
    · split
      · next hn =>
        rw [row_cons, if_pos hn.symm, pairs_cons, pairs_cons, List.map_append, List.append_assoc,
          hn]
        exact List.perm_middle
      · next hne =>
        rw [row_cons, if_neg (Ne.symm hne), pairs_cons, pairs_cons]
        exact ((ih hrest).append_left _).trans List.perm_middle

/-- In a table of placed values stands what was placed. -/
theorem perm_pairs_ofList (placed : List (String × α)) : (ofList placed).pairs.Perm placed := by
  unfold ofList
  suffices h : ∀ t : HostTable α, Directory.Ascending t →
      (placed.foldl (fun t p => t.push p.1 p.2) t).pairs.Perm (placed ++ t.pairs) by
    simpa [pairs] using h [] List.Pairwise.nil
  induction placed with
  | nil => exact fun t _ => List.Perm.refl _
  | cons p rest ih =>
    intro t ht
    have hpush := Directory.ascending_insert ht p.1 (t.row p.1 ++ [p.2])
    exact (ih _ hpush).trans
      (((perm_pairs_push ht p.1 p.2).append_left _).trans List.perm_middle)

/-- The values of a table are those that were placed. -/
theorem perm_values_ofList (placed : List (String × α)) :
    (ofList placed).values.Perm (placed.map (·.2)) := by
  rw [values_eq_pairs]
  exact (perm_pairs_ofList placed).map _

/-- What stands under a host key is its row. -/
theorem filter_pairs_eq {t : HostTable α} (h : Directory.Ascending t) (host : String) :
    t.pairs.filter (·.1 = host) = (t.row host).map (Prod.mk host) := by
  induction t with
  | nil => rfl
  | cons p rest ih =>
    obtain ⟨hlt, hrest⟩ := Directory.ascending_cons.mp h
    rw [pairs_cons, List.filter_append, ih hrest, row_cons, List.filter_map]
    by_cases hp : p.1 = host
    · subst hp
      rw [row_eq_nil_of_lt hlt]
      simp [Function.comp_def]
    · simp [Function.comp_def, hp]

theorem mem_pairs {t : HostTable α} (h : Directory.Ascending t) {host : String} {a : α} :
    (host, a) ∈ t.pairs ↔ a ∈ t.row host := by
  have hfilter := filter_pairs_eq h host
  have hmem : (host, a) ∈ t.pairs ↔ (host, a) ∈ t.pairs.filter (·.1 = host) := by
    simp [List.mem_filter]
  rw [hmem, hfilter, List.mem_map]
  simp

theorem host_mem_of_mem_pairs {t : HostTable α} {p : String × α} (h : p ∈ t.pairs) :
    p.1 ∈ t.names := by
  unfold pairs at h
  obtain ⟨q, hq, hp⟩ := List.mem_flatMap.mp h
  obtain ⟨a, -, rfl⟩ := List.mem_map.mp hp
  exact List.mem_map_of_mem hq

/-- A host key stands in a table exactly if a value stands under it. -/
theorem mem_names {t : HostTable α} (h : t.Kept) {host : String} :
    host ∈ t.names ↔ ∃ a, a ∈ t.row host := by
  constructor
  · intro hhost
    obtain ⟨p, hp, rfl⟩ := List.mem_map.mp hhost
    rw [row_of_mem h hp]
    exact List.exists_mem_of_ne_nil _ (h.filled p hp)
  · rintro ⟨a, ha⟩
    exact host_mem_of_mem_pairs ((mem_pairs h.ascending).mpr ha)

/-- What stands under some of the host keys is what stands in the rows of these. -/
theorem pairs_filter (t : HostTable α) (f : String → Bool) :
    pairs (t.filter fun p => f p.1) = t.pairs.filter fun p => f p.1 := by
  induction t with
  | nil => rfl
  | cons p rest ih =>
    rw [List.filter_cons, pairs_cons, List.filter_append, ← ih, List.filter_map]
    by_cases hp : f p.1 = true
    · rw [if_pos hp, pairs_cons]
      simp [Function.comp_def, hp]
    · rw [if_neg hp]
      simp [Function.comp_def, hp]

/-! ## Entries and their backends -/

theorem names_backends (t : HostTable Entry) : t.backends.names = t.names := by
  unfold backends mapValues Directory.names
  rw [List.map_map]
  rfl

theorem pairs_backends (t : HostTable Entry) :
    t.backends.pairs = t.pairs.map fun p => (p.1, p.2.backend) := by
  induction t with
  | nil => rfl
  | cons p rest ih =>
    have hcons : backends (p :: rest) = (p.1, p.2.map (·.backend)) :: backends rest := rfl
    rw [hcons, pairs_cons, pairs_cons, ih, List.map_append, List.map_map, List.map_map]
    rfl

theorem values_backends (t : HostTable Entry) : t.backends.values = t.values.map (·.backend) := by
  rw [values_eq_pairs, values_eq_pairs, pairs_backends, List.map_map, List.map_map]
  rfl

end Switchboard.Tenancy.HostTable
