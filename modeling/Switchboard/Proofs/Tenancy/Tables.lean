import Switchboard.Tenancy.Registry
/-
  Host tables as lookups. A table made of placed values has, under each host key, the values that
  were placed there, in their order (`row_ofList`), however the hosts alternate. `backends` is what
  a table of entries says when the stamps are left out; a table of stamped backends says what the
  plain table of these backends says (`stampedTable_backends`).
-/
namespace Switchboard.Tenancy

open Switchboard.Settings (Source)

namespace HostTable

variable {α β : Type}

/-! ## Rows -/

theorem row_nil (host : String) : row ([] : HostTable α) host = [] := rfl

theorem row_push (t : HostTable α) (host other : String) (a : α) :
    (t.push host a).row other = if other = host then t.row host ++ [a] else t.row other := by
  unfold push row
  rw [Directory.find?_insert]
  split <;> rfl

/-- Values placed on top of a table stand behind those that the table has under the same key. -/
theorem row_foldl_push (pairs : List (String × α)) (t : HostTable α) (host : String) :
    (pairs.foldl (fun t p => t.push p.1 p.2) t).row host =
      t.row host ++ (pairs.filter (·.1 = host)).map (·.2) := by
  -- The table is built from the front, so it is arbitrary in the induction.
  induction pairs generalizing t with
  | nil => simp
  | cons p rest ih =>
    rw [List.foldl_cons, ih, row_push]
    by_cases h : p.1 = host
    · simp [h]
    · simp [h, Ne.symm h]

/-- Under each host key a table made of placed values has those placed there, in order. -/
theorem row_ofList (pairs : List (String × α)) (host : String) :
    (ofList pairs).row host = (pairs.filter (·.1 = host)).map (·.2) := by
  unfold ofList
  rw [row_foldl_push, row_nil, List.nil_append]

theorem mem_row_ofList {pairs : List (String × α)} {host : String} {a : α} :
    a ∈ (ofList pairs).row host ↔ (host, a) ∈ pairs := by
  simp only [row_ofList, List.mem_map, List.mem_filter, decide_eq_true_eq]
  constructor
  · rintro ⟨p, ⟨hp, rfl⟩, rfl⟩
    exact hp
  · intro h
    exact ⟨(host, a), ⟨h, rfl⟩, rfl⟩

/-- One value placed under different keys stands alone under each of them. -/
theorem row_ofList_const {hosts : List String} (hnodup : hosts.Nodup) (a : α) (host : String) :
    (ofList (hosts.map fun k => (k, a))).row host = if host ∈ hosts then [a] else [] := by
  rw [row_ofList]
  induction hosts with
  | nil => rfl
  | cons k rest ih =>
    obtain ⟨hk, hrest⟩ := List.nodup_cons.mp hnodup
    have ih := ih hrest
    by_cases h : k = host
    · subst h
      simp [ih, hk]
    · simp [ih, h, Ne.symm h]

/-! ## Replacing the values -/

/-- The table with every value replaced. -/
def mapValues (f : α → β) (t : HostTable α) : HostTable β :=
  List.map (fun p => (p.1, p.2.map f)) t

theorem row_mapValues (f : α → β) (t : HostTable α) (host : String) :
    (t.mapValues f).row host = (t.row host).map f := by
  have h := Directory.find?_map (fun _ l => List.map f l) host t
  unfold mapValues row
  rw [h]
  cases t.find? host <;> rfl

theorem mapValues_push (f : α → β) (t : HostTable α) (host : String) (a : α) :
    (t.push host a).mapValues f = (t.mapValues f).push host (f a) := by
  have hrow : (t.row host).map f = (t.mapValues f).row host := (row_mapValues f t host).symm
  unfold push
  rw [← hrow, ← List.map_singleton, ← List.map_append]
  exact Directory.map_insert (List.map f) host _ t

theorem mapValues_foldl_push (f : α → β) (pairs : List (String × α)) (t : HostTable α) :
    (pairs.foldl (fun t p => t.push p.1 p.2) t).mapValues f =
      (pairs.map fun p => (p.1, f p.2)).foldl (fun t p => t.push p.1 p.2) (t.mapValues f) := by
  induction pairs generalizing t with
  | nil => rfl
  | cons p rest ih => rw [List.foldl_cons, ih, mapValues_push]; rfl

theorem mapValues_ofList (f : α → β) (pairs : List (String × α)) :
    (ofList pairs).mapValues f = ofList (pairs.map fun p => (p.1, f p.2)) :=
  mapValues_foldl_push f pairs []

/-! ## Entries and their backends -/

/-- What a table of entries says when the stamps are left out. -/
def backends (t : HostTable Entry) : HostTable Backend := t.mapValues (·.backend)

theorem row_backends (t : HostTable Entry) (host : String) :
    t.backends.row host = (t.row host).map (·.backend) := row_mapValues _ t host

/-- The first backend under the host key of a URL that claims it. -/
def firstClaim? (t : HostTable Backend) (u : Url) : Option Backend :=
  (t.row u.hostKey).find? (·.claims u.normalized)

end HostTable

theorem map_backend_stamped (first : Nat) (placed : List Placed) :
    (stamped first placed).map (fun p => (p.1, p.2.backend)) = placed := by
  induction placed generalizing first with
  | nil => rfl
  | cons p rest ih => rw [stamped, List.map_cons, ih]

/-- The stamps make no difference to what the table of the listed backends says. -/
theorem stampedTable_backends (s : Source) (first : Nat) :
    (stampedTable s first).backends = configuredTable s := by
  unfold stampedTable HostTable.backends
  rw [HostTable.mapValues_ofList, map_backend_stamped]
  rfl

end Switchboard.Tenancy
