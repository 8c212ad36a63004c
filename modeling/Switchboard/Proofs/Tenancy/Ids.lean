import Switchboard.Proofs.Tenancy.WellFormed
import Switchboard.Proofs.Text.Lists
/-
  Lists of ids. The ids that settings list are what stands between the commas, without blanks around
  it and each once, and none of them could be taken apart again: it has no comma, and no blank at
  its ends (`listable_of_mem`). Such ids are read back from every text that lists them, whatever
  blanks stand around the commas (`backendIds_of_lists`). So reading is a retraction
  (`backendIds_retract`): written down again, what was read is read again.
-/
namespace Switchboard.Tenancy

open Switchboard.Settings (Source)
open Switchboard.Text

/-- The text that lists the ids; it is empty if there is none. -/
def listText (s : Source) : String := (s.text? mainSection "backends").getD ""

/-- An id that can stand between commas and blanks. -/
structure Listable (id : String) : Prop where
  filled : id ≠ ""
  whole : ',' ∉ id.toList
  tight : Tight id.toList

/-- A text that lists ids: they stand between commas, each with any blanks around it. -/
def Lists (text : String) (ids : List String) : Prop :=
  ∃ items : List String,
    List.Forall₂ (fun item id => Padded item.toList id.toList) items ids ∧
      text = ",".intercalate items

/-! ## Reading -/

theorem backendIds_eq_distinct (s : Source) :
    backendIds s =
      distinct (((trimmedPieces (listText s)).filter (· ≠ [])).map String.ofList) := by
  unfold backendIds
  congr 2
  refine List.filter_congr fun p _ => ?_
  cases p <;> rfl

/-- What was read from a list can stand in one. -/
theorem listable_of_mem {s : Source} {id : String} (h : id ∈ backendIds s) : Listable id := by
  rw [backendIds_eq_distinct, mem_distinct] at h
  obtain ⟨text, htext, rfl⟩ := List.mem_map.mp h
  obtain ⟨htext, hne⟩ := List.mem_filter.mp htext
  obtain ⟨piece, hpiece, rfl⟩ := List.mem_map.mp htext
  refine ⟨?_, ?_, ?_⟩
  · rw [Ne, String.ofList_eq_empty_iff]
    exact of_decide_eq_true hne
  · rw [String.toList_ofList, mem_trim (by decide)]
    exact not_mem_of_mem_pieces hpiece
  · rw [String.toList_ofList]
    exact tight_trim piece

/-- Settings that list no backends have nothing but blanks where the list should be. -/
theorem blanks_of_not_listsBackends {s : Source} (h : listsBackends s = false) :
    Blanks (listText s).toList := by
  unfold listsBackends nonBlank? at h
  unfold listText
  cases htext : s.text? mainSection "backends" with
  | none => exact nofun
  | some raw =>
    rw [htext, Option.filter_some] at h
    split at h
    · cases h
    · next hblank =>
      have hall : raw.toList.all isBlank = true := by simpa [isBlankText] using hblank
      exact List.all_eq_true.mp hall

theorem backendIds_of_not_listsBackends {s : Source} (h : listsBackends s = false) :
    backendIds s = [] := by
  have hblanks := blanks_of_not_listsBackends h
  have hnone : (trimmedPieces (listText s)).filter (· ≠ []) = [] := by
    rw [List.filter_eq_nil_iff]
    intro text htext
    obtain ⟨piece, hpiece, rfl⟩ := List.mem_map.mp htext
    have hpiece : Blanks piece := fun c hc => hblanks c (mem_of_mem_pieces hpiece hc)
    simp [trim_eq_nil_iff.mpr hpiece]
  rw [backendIds_eq_distinct, hnone]
  rfl

/-! ## Reading what was written -/

/-- Each item of a list is trimmed to the id that it was made of. -/
theorem map_trim_items {items ids : List String}
    (hitems : List.Forall₂ (fun item id => Padded item.toList id.toList) items ids)
    (hids : ∀ id ∈ ids, Listable id) :
    (items.map String.toList).map trim = ids.map String.toList := by
  induction hitems with
  | nil => rfl
  | cons hitem _ ih =>
    obtain ⟨hid, hrest⟩ := List.forall_mem_cons.mp hids
    rw [List.map_cons, List.map_cons, List.map_cons, ih hrest, trim_eq_iff.mpr ⟨hitem, hid.tight⟩]

theorem trimmedPieces_of_lists {text : String} {ids : List String} (hlists : Lists text ids)
    (hids : ∀ id ∈ ids, Listable id) (hne : ids ≠ []) :
    trimmedPieces text = ids.map String.toList := by
  obtain ⟨items, hitems, rfl⟩ := hlists
  have htrim := map_trim_items hitems hids
  have hitems_ne : items.map String.toList ≠ [] := by
    intro hnil
    rw [hnil, List.map_nil, eq_comm, List.map_eq_nil_iff] at htrim
    exact hne htrim
  have hfree : ∀ item ∈ items.map String.toList, ',' ∉ item := by
    intro item hitem
    have hmem := List.mem_map_of_mem (f := trim) hitem
    rw [htrim] at hmem
    obtain ⟨id, hid, heq⟩ := List.mem_map.mp hmem
    rw [← mem_trim (by decide), ← heq]
    exact (hids id hid).whole
  unfold trimmedPieces
  rw [String.toList_intercalate, show ",".toList = [','] from rfl,
    pieces_intercalate hitems_ne hfree, htrim]

/-- Ids that can be listed are read back from any text that lists them. -/
theorem backendIds_of_lists {s : Source} {ids : List String} (hnodup : ids.Nodup)
    (hids : ∀ id ∈ ids, Listable id) (hlists : Lists (listText s) ids) : backendIds s = ids := by
  rw [backendIds_eq_distinct]
  by_cases hne : ids = []
  · subst hne
    obtain ⟨items, hitems, htext⟩ := hlists
    rw [htext, List.forall₂_nil_right_iff.mp hitems]
    rfl
  · have hfilled : (ids.map String.toList).filter (· ≠ []) = ids.map String.toList := by
      rw [List.filter_eq_self]
      intro text htext
      obtain ⟨id, hid, rfl⟩ := List.mem_map.mp htext
      simpa using (hids id hid).filled
    have hback : (ids.map String.toList).map String.ofList = ids := by simp
    rw [trimmedPieces_of_lists hlists hids hne, hfilled, hback, distinct_of_nodup hnodup]

/-- **Lists of ids are read by a retraction.** The ids that settings list are the pieces of the list
    between its commas, each without the blanks at its ends, as far as anything is left of it, in
    the order in which these first occur. They are distinct and can stand in a list. Any ids of this
    kind are read back from any text that lists them, and in particular those that were read. If
    there are any, the settings count as listing backends. -/
theorem backendIds_retract (s : Source) :
    let between := (listText s).toList.splitOn ','
    (∀ piece ∈ between, Trims piece (trim piece)) ∧
      Firsts (((between.map trim).filter (· ≠ [])).map String.ofList) (backendIds s) ∧
      ((backendIds s).Nodup ∧ ∀ id ∈ backendIds s, Listable id) ∧
      (∀ ids : List String, ids.Nodup → (∀ id ∈ ids, Listable id) → Lists (listText s) ids →
        backendIds s = ids) ∧
      (∀ t : Source, Lists (listText t) (backendIds s) → backendIds t = backendIds s) ∧
      (backendIds s ≠ [] → listsBackends s = true) := by
  intro between
  have hids : ∀ id ∈ backendIds s, Listable id := fun id => listable_of_mem
  refine ⟨fun piece _ => trims_trim piece, ?_, ⟨nodup_backendIds s, hids⟩, ?_, ?_, ?_⟩
  · rw [backendIds_eq_distinct, trimmedPieces, pieces_eq_splitOn]
    exact firsts_distinct _
  · exact fun ids => backendIds_of_lists
  · exact fun t => backendIds_of_lists (nodup_backendIds s) hids
  · intro hne
    by_contra hlists
    exact hne (backendIds_of_not_listsBackends (eq_false_of_ne_true hlists))

/-- Settings that list something and nothing else. -/
def listing (text : String) : Source := textSettings [("backend", [("backends", text)])]

theorem backendIds_retract_spaced :
    let s := listing " zeta, alpha,,zeta\u00a0, mid "
    let t := listing "zeta ,\t\talpha,mid\n"
    backendIds s = ["zeta", "alpha", "mid"] ∧ Lists (listText t) (backendIds s) ∧
      backendIds t = backendIds s ∧ listsBackends s = true ∧
      (["zeta", "alpha", "mid"].Nodup ∧ (∀ id ∈ ["zeta", "alpha", "mid"], Listable id) ∧
        Lists (listText t) ["zeta", "alpha", "mid"] ∧ backendIds t = ["zeta", "alpha", "mid"]) := by
  intro s t
  have hids : backendIds s = ["zeta", "alpha", "mid"] := by decide +kernel
  have hlists : Lists (listText t) ["zeta", "alpha", "mid"] := by
    refine ⟨["zeta ", "\t\talpha", "mid\n"], .cons ?_ (.cons ?_ (.cons ?_ .nil)), by decide⟩
    · exact ⟨[], [' '], nofun, by decide, rfl⟩
    · exact ⟨['\t', '\t'], [], by decide, nofun, rfl⟩
    · exact ⟨[], ['\n'], nofun, by decide, rfl⟩
  obtain ⟨-, -, ⟨hnodup, hlistable⟩, -, hagain, hany⟩ := backendIds_retract s
  obtain ⟨-, -, -, hback, -, -⟩ := backendIds_retract t
  rw [hids] at hnodup hlistable hagain hany ⊢
  exact ⟨rfl, hlists, hagain t hlists, hany (List.cons_ne_nil _ _), hnodup, hlistable, hlists,
    hback _ hnodup hlistable hlists⟩

end Switchboard.Tenancy
