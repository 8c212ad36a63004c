/-
  Directories: values listed under names, in ascending order of the names. JSON objects, settings
  and host tables are kept this way, so that two directories with the same content are equal.
-/
namespace Switchboard

/-- Values under names. -/
abbrev Directory (α : Type) := List (String × α)

namespace Directory

variable {α β : Type}

/-- The names ascend strictly, so each occurs once. -/
def Ascending (d : Directory α) : Prop := (d.map Prod.fst).Pairwise (· < ·)

/-- The value under a name. -/
def find? (name : String) : Directory α → Option α
  | [] => none
  | (n, v) :: rest => if n = name then some v else find? name rest

/-- Puts a value under a name; an earlier value under that name is replaced. -/
def insert (name : String) (value : α) : Directory α → Directory α
  | [] => [(name, value)]
  | (n, v) :: rest =>
    if name < n then (name, value) :: (n, v) :: rest
    else if name = n then (name, value) :: rest
    else (n, v) :: insert name value rest

/-- The names. -/
def names (d : Directory α) : List String := d.map Prod.fst

/-- The directory of a list of pairs; of two pairs with one name the later counts. -/
def ofList (pairs : List (String × α)) : Directory α :=
  pairs.foldl (fun d p => d.insert p.1 p.2) []

@[simp] theorem find?_nil (name : String) : find? name ([] : Directory α) = none := rfl

@[simp] theorem find?_insert_self (name : String) (value : α) (d : Directory α) :
    (d.insert name value).find? name = some value := by
  induction d with
  | nil => simp [insert, find?]
  | cons p rest ih =>
    obtain ⟨n, v⟩ := p
    simp only [insert]
    split
    · simp [find?]
    · split
      · simp [find?]
      · next h => simp [find?, Ne.symm h, ih]

theorem find?_insert_of_ne {name other : String} (h : other ≠ name) (value : α)
    (d : Directory α) : (d.insert name value).find? other = d.find? other := by
  induction d with
  | nil => simp [insert, find?, Ne.symm h]
  | cons p rest ih =>
    obtain ⟨n, v⟩ := p
    simp only [insert]
    split
    · simp [find?, Ne.symm h]
    · split
      · next hn => subst hn; simp [find?, Ne.symm h]
      · simp [find?, ih]

theorem find?_insert (name other : String) (value : α) (d : Directory α) :
    (d.insert name value).find? other = if other = name then some value else d.find? other := by
  by_cases h : other = name
  · rw [if_pos h, h, find?_insert_self]
  · rw [if_neg h, find?_insert_of_ne h]

theorem mem_of_find? {name : String} {value : α} {d : Directory α}
    (h : d.find? name = some value) : (name, value) ∈ d := by
  induction d with
  | nil => simp at h
  | cons p rest ih =>
    obtain ⟨n, v⟩ := p
    simp only [find?] at h
    split at h
    · next hn =>
      cases h
      rw [hn]
      exact List.mem_cons_self
    · exact List.mem_cons_of_mem _ (ih h)

/-- Replacing every value keeps the names, so a look-up finds the replaced value. -/
theorem find?_map (f : String → α → β) (name : String) (d : Directory α) :
    find? name (d.map fun p => (p.1, f p.1 p.2)) = (d.find? name).map (f name) := by
  induction d with
  | nil => rfl
  | cons p rest ih =>
    obtain ⟨n, v⟩ := p
    simp only [List.map_cons, find?]
    split
    · next hn => rw [hn, Option.map_some]
    · exact ih

theorem map_insert (f : α → β) (name : String) (value : α) (d : Directory α) :
    (d.insert name value).map (fun p => (p.1, f p.2)) =
      insert name (f value) (d.map fun p => (p.1, f p.2)) := by
  induction d with
  | nil => rfl
  | cons p rest ih =>
    obtain ⟨n, v⟩ := p
    simp only [List.map_cons, insert]
    split
    · rfl
    · split
      · rfl
      · rw [List.map_cons, ih]

end Directory

end Switchboard
