import Switchboard.Proofs.Tenancy.Isolation
/-
  Merging the entries of a host, with any two lists: backends may repeat in either. At the place of
  every wanted entry stands the first existing entry with its backend, or if there is none the
  wanted entry itself (`settles_sameBackend?`). So an entry of the result was there before exactly
  if it was found, and the three counts are numbers of positions, each counted on its own:
  of the result as far as it was there before, of the rest of it, and of the existing entries whose
  backend is not wanted anywhere (`upsert_settles`).

  Entries are the same if they have the same stamp and the same backend.
-/
namespace Switchboard.Tenancy

/-! ## Positions -/

/-- The positions of a list with elements that have a property. -/
def positions {α : Type} (l : List α) (p : α → Prop) [DecidablePred p] : Finset (Fin l.length) :=
  Finset.univ.filter fun i => p (l.get i)

theorem card_positions {α : Type} (l : List α) (p : α → Prop) [DecidablePred p] :
    (positions l p).card = (l.filter (p ·)).length := by
  induction l with
  | nil => rfl
  | cons a l ih =>
    have hcard : (positions (a :: l) p).card =
        if p a then (positions l p).card + 1 else (positions l p).card :=
      Fin.card_filter_univ_succ fun i => p ((a :: l).get i)
    rw [hcard, ih]
    by_cases ha : p a
    · rw [if_pos ha, List.filter_cons_of_pos (by simpa using ha), List.length_cons]
    · rw [if_neg ha, List.filter_cons_of_neg (by simpa using ha)]

/-! ## One position -/

/-- An entry that stands in a merge at the place of a wanted one: it has the wanted backend, it was
    there before exactly if any existing entry has this backend, and then it is the first of these;
    otherwise it is the wanted entry itself. -/
structure Settles (existing : List Entry) (w e : Entry) : Prop where
  same : e.backend = w.backend
  reused_iff : e ∈ existing ↔ w.backend ∈ existing.map (·.backend)
  first : e ∈ existing → ∃ before after, existing = before ++ e :: after ∧
    ∀ x ∈ before, x.backend ≠ w.backend
  own : e ∉ existing → e = w

theorem sameBackend?_eq_some {existing : List Entry} {w e : Entry}
    (h : sameBackend? existing w = some e) :
    e.backend = w.backend ∧ ∃ before after, existing = before ++ e :: after ∧
      ∀ x ∈ before, x.backend ≠ w.backend := by
  unfold sameBackend? at h
  obtain ⟨hsame, before, after, hexisting, hbefore⟩ := List.find?_eq_some_iff_append.mp h
  refine ⟨eq_of_beq hsame, before, after, hexisting, fun x hx => ?_⟩
  exact bne_iff_ne.mp (hbefore x hx)

/-- What stands for a wanted entry was there before exactly if its backend was. -/
theorem sameBackend?_getD_mem_iff {existing : List Entry} {w : Entry} :
    (sameBackend? existing w).getD w ∈ existing ↔ w.backend ∈ existing.map (·.backend) := by
  constructor
  · intro hmem
    rw [← backend_sameBackend?_getD existing w]
    exact List.mem_map_of_mem hmem
  · intro hmem
    obtain ⟨e, he⟩ := Option.isSome_iff_exists.mp (sameBackend?_isSome_iff.mpr hmem)
    rw [he]
    exact List.mem_of_find?_eq_some he

theorem settles_sameBackend? (existing : List Entry) (w : Entry) :
    Settles existing w ((sameBackend? existing w).getD w) where
  same := backend_sameBackend?_getD existing w
  reused_iff := sameBackend?_getD_mem_iff
  first := by
    intro hmem
    have hsome := sameBackend?_isSome_iff.mpr (sameBackend?_getD_mem_iff.mp hmem)
    obtain ⟨e, he⟩ := Option.isSome_iff_exists.mp hsome
    rw [he]
    exact (sameBackend?_eq_some he).2
  own := by
    intro hmem
    have hnone := sameBackend?_isNone_iff.mpr fun h => hmem (sameBackend?_getD_mem_iff.mpr h)
    rw [Option.isNone_iff_eq_none.mp hnone]
    rfl

/-! ## Whole lists -/

section

variable (existing wanted : List Entry)

theorem settles_merged : List.Forall₂ (Settles existing) wanted (merged existing wanted) := by
  unfold merged
  induction wanted with
  | nil => exact .nil
  | cons w rest ih => exact .cons (settles_sameBackend? existing w) ih

/-- Positions of a merge, counted at the wanted entries. -/
theorem card_positions_merged (p : Entry → Prop) [DecidablePred p] :
    (positions (merged existing wanted) p).card =
      (wanted.filter fun w => p ((sameBackend? existing w).getD w)).length := by
  rw [card_positions, merged, List.filter_map, List.length_map]
  rfl

theorem length_keptEntries_eq_card :
    (keptEntries existing wanted).length =
      (positions (merged existing wanted) (· ∈ existing)).card := by
  rw [card_positions_merged, length_keptEntries, List.filter_map, List.length_map]
  simp only [sameBackend?_getD_mem_iff, Function.comp_def]

theorem length_addedEntries_eq_card :
    (addedEntries existing wanted).length =
      (positions (merged existing wanted) (· ∉ existing)).card := by
  rw [card_positions_merged, length_addedEntries, List.filter_map, List.length_map]
  simp only [sameBackend?_getD_mem_iff, Function.comp_def]

theorem length_removedEntries_eq_card :
    (removedEntries existing wanted).length =
      (positions existing fun e => e.backend ∉ wanted.map (·.backend)).card := by
  rw [card_positions, length_removedEntries, List.filter_map, List.length_map]
  rfl

/-- **Merging any two lists.** The result says what the wanted list says, position by position, and
    takes each entry from where it should. To the summary is added how many positions of the result
    were there before, how many were not, and how many existing positions have a backend that is
    not wanted at any; the hosts that it names stay. -/
theorem upsert_settles (s : Summary) :
    let result := (upsert existing wanted s).1
    result.map (·.backend) = wanted.map (·.backend) ∧
      List.Forall₂ (Settles existing) wanted result ∧
      (upsert existing wanted s).2 =
        { kept := s.kept + (positions result (· ∈ existing)).card
          added := s.added + (positions result (· ∉ existing)).card
          removed := s.removed +
            (positions existing fun e => e.backend ∉ wanted.map (·.backend)).card
          hostsRemoved := s.hostsRemoved } := by
  intro result
  refine ⟨map_backend_merged existing wanted, settles_merged existing wanted, ?_⟩
  change s.count existing wanted = _
  unfold Summary.count
  rw [length_keptEntries_eq_card, length_addedEntries_eq_card, length_removedEntries_eq_card]
  rfl

end

/-- Repeats on both sides: both wanted copies of a backend become the first existing one, and both
    existing copies of another are removed. -/
example :
    let a : Backend := .shared (.ofText "a")
    let b : Backend := .shared (.ofText "b")
    let c : Backend := .shared (.ofText "c")
    upsert [⟨0, b⟩, ⟨1, a⟩, ⟨2, a⟩, ⟨3, b⟩] [⟨4, a⟩, ⟨5, c⟩, ⟨6, a⟩] .zero =
      ([⟨1, a⟩, ⟨5, c⟩, ⟨1, a⟩], ⟨2, 1, 2, []⟩) := by
  decide

end Switchboard.Tenancy
