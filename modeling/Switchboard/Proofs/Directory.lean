import Mathlib.Data.List.Sort
import Mathlib.Data.String.Basic
import Switchboard.Directory
/-
  Directories in ascending order of their names. Putting a value into one keeps the order, a name
  greater than all others goes to the end, and every entry is the one that a look-up of its name
  finds; so look-ups tell two directories apart.
-/
namespace Switchboard.Directory

variable {α : Type}

theorem mem_insert {name : String} {value : α} {d : Directory α} {p : String × α}
    (h : p ∈ d.insert name value) : p = (name, value) ∨ p ∈ d := by
  induction d with
  | nil => exact .inl (List.mem_singleton.mp h)
  | cons q rest ih =>
    obtain ⟨n, v⟩ := q
    rw [insert] at h
    split at h
    · exact List.mem_cons.mp h
    · split at h
      · exact (List.mem_cons.mp h).imp_right (List.mem_cons_of_mem _)
      · rcases List.mem_cons.mp h with rfl | h
        · exact .inr List.mem_cons_self
        · exact (ih h).imp_right (List.mem_cons_of_mem _)

theorem ascending_cons {p : String × α} {d : Directory α} :
    Ascending (p :: d) ↔ (∀ q ∈ d, p.1 < q.1) ∧ d.Ascending := by
  unfold Ascending
  rw [List.map_cons, List.pairwise_cons]
  simp only [List.mem_map, forall_exists_index, and_imp, forall_apply_eq_imp_iff₂]

theorem ascending_insert {d : Directory α} (h : d.Ascending) (name : String) (value : α) :
    (d.insert name value).Ascending := by
  induction d with
  | nil => exact List.pairwise_singleton _ _
  | cons q rest ih =>
    obtain ⟨n, v⟩ := q
    obtain ⟨hlt, hrest⟩ := ascending_cons.mp h
    rw [insert]
    split
    · next hn =>
      refine ascending_cons.mpr ⟨?_, h⟩
      intro p hp
      rcases List.mem_cons.mp hp with rfl | hp
      · exact hn
      · exact lt_trans hn (hlt p hp)
    · split
      · next hn =>
        subst hn
        exact ascending_cons.mpr ⟨hlt, hrest⟩
      · next hn hne =>
        refine ascending_cons.mpr ⟨?_, ih hrest⟩
        intro p hp
        rcases mem_insert hp with rfl | hp
        · exact lt_of_le_of_ne (not_lt.mp hn) (Ne.symm hne)
        · exact hlt p hp

theorem ascending_foldl_insert {d : Directory α} (h : d.Ascending) (pairs : List (String × α)) :
    (pairs.foldl (fun d p => d.insert p.1 p.2) d).Ascending := by
  induction pairs generalizing d with
  | nil => exact h
  | cons p rest ih => exact ih (ascending_insert h p.1 p.2)

theorem mem_foldl_insert {d : Directory α} {pairs : List (String × α)} {p : String × α}
    (h : p ∈ pairs.foldl (fun d p => d.insert p.1 p.2) d) : p ∈ d ∨ p ∈ pairs := by
  induction pairs generalizing d with
  | nil => exact .inl h
  | cons q rest ih =>
    rcases ih h with hd | hrest
    · rcases mem_insert hd with rfl | hd
      · exact .inr List.mem_cons_self
      · exact .inl hd
    · exact .inr (List.mem_cons_of_mem q hrest)

/-- Whatever pairs it is made of, the names of a directory ascend. -/
theorem ascending_ofList (pairs : List (String × α)) : (ofList pairs).Ascending :=
  ascending_foldl_insert (d := []) List.Pairwise.nil pairs

theorem mem_of_mem_ofList {pairs : List (String × α)} {p : String × α} (h : p ∈ ofList pairs) :
    p ∈ pairs := (mem_foldl_insert h).resolve_left List.not_mem_nil

theorem find?_eq_none_of_lt {name : String} {d : Directory α} (h : ∀ p ∈ d, name < p.1) :
    d.find? name = none := by
  induction d with
  | nil => rfl
  | cons p rest ih =>
    obtain ⟨n, v⟩ := p
    have hn : name < n := h _ List.mem_cons_self
    rw [find?, if_neg (ne_of_gt hn)]
    exact ih fun q hq => h q (List.mem_cons_of_mem _ hq)

theorem find?_isNone_iff {d : Directory α} {name : String} :
    (d.find? name).isNone = true ↔ name ∉ d.names := by
  induction d with
  | nil => simp [names]
  | cons p rest ih =>
    rw [find?, names, List.map_cons, List.mem_cons, not_or]
    by_cases hp : p.1 = name
    · simp [hp]
    · rw [if_neg hp, ih]
      simp [names, Ne.symm hp]

/-- In ascending order every entry is the one that a look-up of its name finds. -/
theorem find?_of_mem {d : Directory α} (h : d.Ascending) {p : String × α} (hp : p ∈ d) :
    d.find? p.1 = some p.2 := by
  induction d with
  | nil => cases hp
  | cons q rest ih =>
    obtain ⟨n, v⟩ := q
    obtain ⟨hlt, hrest⟩ := ascending_cons.mp h
    rcases List.mem_cons.mp hp with rfl | hp
    · exact if_pos rfl
    · rw [find?, if_neg (ne_of_lt (hlt p hp))]
      exact ih hrest hp

/-- Two directories in ascending order are equal if every look-up finds the same in both. -/
theorem ext_find? {d d' : Directory α} (h : d.Ascending) (h' : d'.Ascending)
    (hfind : ∀ name, d.find? name = d'.find? name) : d = d' := by
  have hirrefl : Std.Irrefl fun p q : String × α => p.1 < q.1 := ⟨fun p => lt_irrefl p.1⟩
  have hantisymm : Std.Antisymm fun p q : String × α => p.1 < q.1 :=
    ⟨fun _ _ hpq hqp => absurd hqp (lt_asymm hpq)⟩
  apply List.Subset.antisymm_of_pairwise (List.pairwise_map.mp h) (List.pairwise_map.mp h')
  · intro p hp
    exact mem_of_find? ((hfind p.1).symm.trans (find?_of_mem h hp))
  · intro p hp
    exact mem_of_find? ((hfind p.1).trans (find?_of_mem h' hp))

/-- A name greater than all others goes to the end. -/
theorem insert_eq_append {name : String} {d : Directory α} (h : ∀ p ∈ d, p.1 < name) (value : α) :
    d.insert name value = d ++ [(name, value)] := by
  induction d with
  | nil => rfl
  | cons p rest ih =>
    obtain ⟨n, v⟩ := p
    have hn : n < name := h _ List.mem_cons_self
    rw [insert, if_neg (lt_asymm hn), if_neg (ne_of_gt hn),
      ih fun q hq => h q (List.mem_cons_of_mem _ hq), List.cons_append]

end Switchboard.Directory
