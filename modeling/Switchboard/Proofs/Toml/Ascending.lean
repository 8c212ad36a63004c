import Switchboard.Proofs.Directory
import Switchboard.Toml.Document
/-
  Documents that are read have their names in order. A table is put in order when it is finished, so
  the names of a document ascend, and those of each section that headers or keys with points have
  made. A section may also be written in braces, and then it is a value: such a table was finished
  when its brace was closed (`ordered_value?`), and no line after it changes it
  (`ordered_lines?`). `ascending_of_ofText?` puts both together.
-/
namespace Switchboard.Toml

/-! ## Values -/

/-- A value whose names ascend, if it is a table. -/
def Value.Ordered (v : Value) : Prop := ∀ t, v.table? = some t → t.Ascending

theorem ascending_finish (t : DraftTable) : t.finish.Ascending := Directory.ascending_ofList _

theorem ascending_inlineTable? {value : Reader Value} {s r : List Char} {t : Table}
    (h : inlineTable? value s = some (t, r)) : t.Ascending := by
  unfold inlineTable? at h
  split at h
  · cases h
    exact List.Pairwise.nil
  · obtain ⟨⟨u, rest⟩, -, hu⟩ := Option.map_eq_some_iff.mp h
    cases hu
    exact ascending_finish u

theorem ordered_of_no_table {v : Value} (h : v.table? = none) : v.Ordered := by
  intro t ht
  rw [h] at ht
  cases ht

theorem ordered_numeric? {s r : List Char} {v : Value} (h : numeric? s = some (v, r)) :
    v.Ordered := by
  unfold numeric? at h
  simp only [Option.orElse_eq_orElse, Option.orElse_eq_or, Option.or_eq_some_iff,
    Option.map_eq_some_iff] at h
  rcases h with ⟨m, -, hv⟩ | ⟨-, ⟨x, -, hv⟩ | ⟨-, n, -, hv⟩⟩
  all_goals
    cases hv
    exact ordered_of_no_table rfl

theorem ordered_valueWith? {inner : Option (Reader Value)} {s r : List Char} {v : Value}
    (h : valueWith? inner s = some (v, r)) : v.Ordered := by
  cases s with
  | nil => cases h
  | cons c s =>
    unfold valueWith? at h
    dsimp only at h
    split_ifs at h
    · obtain ⟨⟨text, rest⟩, -, hv⟩ := Option.map_eq_some_iff.mp h
      cases hv
      exact ordered_of_no_table rfl
    · obtain ⟨read, -, h⟩ := Option.bind_eq_some_iff.mp h
      obtain ⟨⟨vs, rest⟩, -, hv⟩ := Option.bind_eq_some_iff.mp h
      cases hv
      exact ordered_of_no_table rfl
    · obtain ⟨read, -, h⟩ := Option.bind_eq_some_iff.mp h
      obtain ⟨⟨t, rest⟩, ht, hv⟩ := Option.bind_eq_some_iff.mp h
      cases hv
      intro t' ht'
      cases ht'
      exact ascending_inlineTable? ht
    · obtain ⟨rest, -, hv⟩ := Option.map_eq_some_iff.mp h
      cases hv
      exact ordered_of_no_table rfl
    · obtain ⟨rest, -, hv⟩ := Option.map_eq_some_iff.mp h
      cases hv
      exact ordered_of_no_table rfl
    · exact ordered_numeric? h

theorem ordered_value? {deep : Nat} {s r : List Char} {v : Value}
    (h : value? deep s = some (v, r)) : v.Ordered := by
  cases deep with
  | zero => exact ordered_valueWith? h
  | succ d => exact ordered_valueWith? h

theorem ordered_entry {deep : Nat} {s r : List Char} {k : List String × String} {v : Value}
    (h : entry? (value? deep) s = some ((k, v), r)) : v.Ordered := by
  unfold entry? at h
  obtain ⟨⟨k', s'⟩, -, h⟩ := Option.bind_eq_some_iff.mp h
  dsimp only at h
  split at h
  · obtain ⟨⟨v', r'⟩, hv, h⟩ := Option.bind_eq_some_iff.mp h
    cases h
    exact ordered_value? hv
  · cases h

/-! ## Tables in the making -/

/-- The values in a table in the making, not counting those of the tables in it. -/
def DraftTable.Ordered (t : DraftTable) : Prop :=
  ∀ p ∈ t.entries, ∀ v, p.2 = .value v → v.Ordered

namespace DraftTable

variable {t u : DraftTable} {name : String}

theorem Ordered.put (ht : t.Ordered) {d : Draft} (hd : ∀ v, d = .value v → v.Ordered) :
    (t.put name d).Ordered := by
  intro p hp
  rcases Directory.mem_insert hp with rfl | hp
  · exact hd
  · exact ht p hp

/-- What is changed inside a table is no value of it. -/
theorem Ordered.change? {f : DraftTable → Option DraftTable} {origin : Origin}
    (hf : ∀ t u, t.Ordered → f t = some u → u.Ordered) (path : List String) (ht : t.Ordered)
    (h : t.change? f origin path = some u) : u.Ordered := by
  cases path with
  | nil => exact hf t u ht h
  | cons k ks =>
    unfold DraftTable.change? at h
    split at h
    · obtain ⟨inside, -, h⟩ := Option.bind_eq_some_iff.mp h
      cases h
      exact ht.put nofun
    · cases h
    · obtain ⟨inside, -, h⟩ := Option.bind_eq_some_iff.mp h
      cases h
      exact ht.put nofun
    · split at h
      · cases h
      · obtain ⟨inside, -, h⟩ := Option.bind_eq_some_iff.mp h
        cases h
        exact ht.put nofun

theorem Ordered.add? {path : List String} {v : Value} (hv : v.Ordered) (ht : t.Ordered)
    (h : t.add? path name v = some u) : u.Ordered := by
  refine Ordered.change? (fun t u ht h => ?_) path ht h
  unfold addValue? at h
  split at h
  · cases h
  · cases h
    refine ht.put fun v' hv' => ?_
    cases hv'
    exact hv

theorem Ordered.openTable? (ht : t.Ordered) (h : t.openTable? name = some u) : u.Ordered := by
  unfold DraftTable.openTable? at h
  split at h
  · cases h
    exact ht.put nofun
  · cases h
    exact ht.put nofun
  · cases h

theorem Ordered.startTable? (ht : t.Ordered) (h : t.startTable? name = some u) : u.Ordered := by
  unfold DraftTable.startTable? at h
  split at h
  · cases h
    exact ht.put nofun
  · cases h
    exact ht.put nofun
  · cases h

theorem mem_finishAll {entries : List (String × Draft)} {p : String × Value}
    (h : p ∈ Draft.finishAll entries) : ∃ d, (p.1, d) ∈ entries ∧ p.2 = d.finish := by
  induction entries with
  | nil => cases h
  | cons q rest ih =>
    rw [Draft.finishAll] at h
    rcases List.mem_cons.mp h with rfl | h
    · exact ⟨q.2, List.mem_cons_self, rfl⟩
    · obtain ⟨d, hd, hp⟩ := ih h
      exact ⟨d, List.mem_cons_of_mem q hd, hp⟩

/-- When a table is finished, its values and the tables in it are in order. -/
theorem Ordered.of_mem_finish (ht : t.Ordered) {p : String × Value} (hp : p ∈ t.finish) :
    p.2.Ordered := by
  obtain ⟨d, hd, hfinish⟩ := mem_finishAll (Directory.mem_of_mem_ofList hp)
  rw [hfinish]
  cases d with
  | value v => exact ht _ hd v rfl
  | table origin entries =>
    intro t' ht'
    cases ht'
    exact Directory.ascending_ofList _
  | tables last earlier => exact ordered_of_no_table rfl

end DraftTable

/-! ## Lines -/

section

variable {p q : Progress} {s r : List Char}

theorem ordered_tableHeader? (hp : p.whole.Ordered) (h : p.tableHeader? s = some (q, r)) :
    q.whole.Ordered := by
  unfold Progress.tableHeader? at h
  obtain ⟨⟨⟨path, name⟩, s'⟩, -, h⟩ := Option.bind_eq_some_iff.mp h
  obtain ⟨whole, hwhole, h⟩ := Option.bind_eq_some_iff.mp h
  cases h
  exact hp.change? (fun _ _ ht hu => ht.openTable? hu) path hwhole

theorem ordered_listHeader? (hp : p.whole.Ordered) (h : p.listHeader? s = some (q, r)) :
    q.whole.Ordered := by
  unfold Progress.listHeader? at h
  obtain ⟨⟨⟨path, name⟩, s'⟩, -, h⟩ := Option.bind_eq_some_iff.mp h
  dsimp only at h
  split at h
  · obtain ⟨whole, hwhole, h⟩ := Option.bind_eq_some_iff.mp h
    cases h
    exact hp.change? (fun _ _ ht hu => ht.startTable? hu) path hwhole
  · cases h

theorem ordered_progress_entry (hp : p.whole.Ordered) (h : p.entry? s = some (q, r)) :
    q.whole.Ordered := by
  unfold Progress.entry? at h
  obtain ⟨⟨⟨⟨path, name⟩, v⟩, s'⟩, hentry, h⟩ := Option.bind_eq_some_iff.mp h
  obtain ⟨whole, hwhole, h⟩ := Option.bind_eq_some_iff.mp h
  cases h
  exact hp.change? (fun _ _ ht hu => ht.add? (ordered_entry hentry) hu) p.path hwhole

theorem ordered_line? (hp : p.whole.Ordered) (h : p.line? s = some (q, r)) : q.whole.Ordered := by
  unfold Progress.line? at h
  split at h
  · cases h
    exact hp
  · cases h
    exact hp
  · cases h
    exact hp
  · exact ordered_listHeader? hp h
  · exact ordered_tableHeader? hp h
  · exact ordered_progress_entry hp h

theorem ordered_lines? {fuel : Nat} (hp : p.whole.Ordered)
    (h : Progress.lines? fuel p s = some q) : q.whole.Ordered := by
  induction fuel generalizing p s with
  | zero =>
    unfold Progress.lines? at h
    split at h
    · cases h
      exact hp
    · cases h
  | succ fuel ih =>
    unfold Progress.lines? at h
    split at h
    · cases h
      exact hp
    · obtain ⟨⟨p', s'⟩, hline, h⟩ := Option.bind_eq_some_iff.mp h
      obtain ⟨rest, -, h⟩ := Option.bind_eq_some_iff.mp h
      exact ih (ordered_line? hp hline) h

end

/-- The names of a document that was read ascend, and so do those of each table in it. -/
theorem ascending_of_ofText? {text : String} {t : Table} (h : ofText? text = some t) :
    t.Ascending ∧ ∀ p ∈ t, p.2.Ordered := by
  unfold ofText? at h
  obtain ⟨q, hq, rfl⟩ := Option.map_eq_some_iff.mp h
  have hwhole : q.whole.Ordered := ordered_lines? (fun _ hp => absurd hp List.not_mem_nil) hq
  exact ⟨ascending_finish _, fun p hp => hwhole.of_mem_finish hp⟩

end Switchboard.Toml
