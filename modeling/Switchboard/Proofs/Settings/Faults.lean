import Switchboard.Proofs.Settings.Readable
import Switchboard.Proofs.Toml.Ascending
import Switchboard.Settings.File
/-
  The faults of settings are found, all of them and nothing else. What a fault of a snapshot is
  (`Snapshot.Has`) is said by look-ups and kinds of values, without the search for it. The search
  goes through sections and keys in order, so it finds every fault once, those of sections in the
  order of sections and keys and that of the setting that allows all hosts last (`Fault.Before`,
  `pairwise_faults`). This setting is looked at in its own way, and what is not found at fault there
  is what can be read as a truth value (`isSome_flagOf?_of_not_unreadable`).

  Snapshots have their names in order; those that are read have (`ordered_of_ofText?`).
-/
namespace Switchboard.Settings

open Toml (Value Table Kind)

/-! ## What a fault is -/

/-- A snapshot with its sections in the order of their names, and with each section in the order of
    its keys. -/
structure Snapshot.Ordered (s : Snapshot) : Prop where
  sections : s.sections.Ascending
  keys : ∀ p ∈ s.sections, p.2.Ordered

theorem ordered_of_ofText? {text : String} {s : Snapshot} (h : Snapshot.ofText? text = some s) :
    s.Ordered := by
  unfold Snapshot.ofText? at h
  obtain ⟨t, ht, rfl⟩ := Option.map_eq_some_iff.mp h
  obtain ⟨hsections, hkeys⟩ := Toml.ascending_of_ofText? ht
  exact ⟨hsections, hkeys⟩

/-- A value that is neither a truth value nor a text for one. -/
def Unreadable (v : Value) : Prop := v.kind ≠ .flag ∧ ∀ text, v = .text text → flagOfText? text = none

/-- What it means that a snapshot has a fault. -/
def Snapshot.Has (s : Snapshot) : Fault → Prop
  | .notSection name => ∃ v, s.sections.find? name = some v ∧ v.kind ≠ .table
  | .notScalar sec key => ∃ (t : Table) (v : Value), s.sections.find? sec = some (.table t) ∧
    t.find? key = some v ∧ (v.kind = .list ∨ v.kind = .table)
  | .allowAllNotFlag => ∃ (t : Table) (v : Value), s.sections.find? "backend" = some (.table t) ∧
    t.find? "allowall" = some v ∧ Unreadable v

/-! ## Values -/

theorem table?_eq_none_iff {v : Value} : v.table? = none ↔ v.kind ≠ .table := by
  cases v <;> simp [Value.table?, Value.kind]

theorem isNested_iff {v : Value} : isNested v = true ↔ v.kind = .list ∨ v.kind = .table := by
  cases v <;> simp [isNested, Value.kind]

/-- A value that is not at fault where a truth value is wanted is read as one. -/
theorem isSome_flagOf?_of_not_unreadable {v : Value} (h : ¬Unreadable v) :
    (Snapshot.flagOf? v).isSome = true := by
  cases v with
  | flag b => rfl
  | text t =>
    rw [Option.isSome_iff_ne_none]
    intro hnone
    refine h ⟨nofun, fun text htext => ?_⟩
    cases htext
    exact hnone
  | integer n => rfl
  | real x | moment written | list items | table entries => exact absurd ⟨nofun, nofun⟩ h

theorem value?_eq_some_iff {s : Snapshot} {sec key : String} {v : Value} :
    s.value? sec key = some v ↔
      ∃ t : Table, s.sections.find? sec = some (.table t) ∧ t.find? key = some v := by
  constructor
  · intro h
    unfold Snapshot.value? at h
    obtain ⟨w, hsec, h⟩ := Option.bind_eq_some_iff.mp h
    obtain ⟨t, ht, hkey⟩ := Option.bind_eq_some_iff.mp h
    rw [table?_eq_some ht] at hsec
    exact ⟨t, hsec, hkey⟩
  · rintro ⟨t, hsec, hkey⟩
    rw [value?_of_section hsec, hkey]

/-! ## The search -/

theorem mem_entryFaults {name : String} {v : Value} {f : Fault} :
    f ∈ entryFaults name v ↔ (f = .notSection name ∧ v.kind ≠ .table) ∨
      ∃ t p, v = .table t ∧ p ∈ t ∧ isNested p.2 = true ∧ f = .notScalar name p.1 := by
  unfold entryFaults
  cases ht : v.table? with
  | none =>
    have hkind : v.kind ≠ .table := table?_eq_none_iff.mp ht
    constructor
    · intro h
      exact .inl ⟨List.mem_singleton.mp h, hkind⟩
    · rintro (⟨rfl, -⟩ | ⟨t, p, rfl, -⟩)
      · exact List.mem_singleton.mpr rfl
      · exact absurd rfl hkind
  | some t =>
    cases table?_eq_some ht
    dsimp only
    simp only [List.mem_map, List.mem_filter]
    constructor
    · rintro ⟨p, ⟨hp, hnested⟩, rfl⟩
      exact .inr ⟨t, p, rfl, hp, hnested, rfl⟩
    · rintro (⟨-, hkind⟩ | ⟨t', p, ht', hp, hnested, rfl⟩)
      · exact absurd rfl hkind
      · cases ht'
        exact ⟨p, ⟨hp, hnested⟩, rfl⟩

theorem has_allowAllNotFlag_iff {s : Snapshot} :
    s.Has .allowAllNotFlag ↔ ∃ v, s.value? "backend" "allowall" = some v ∧ Unreadable v := by
  constructor
  · rintro ⟨t, v, hsec, hkey, hv⟩
    exact ⟨v, value?_eq_some_iff.mpr ⟨t, hsec, hkey⟩, hv⟩
  · rintro ⟨v, hvalue, hv⟩
    obtain ⟨t, hsec, hkey⟩ := value?_eq_some_iff.mp hvalue
    exact ⟨t, v, hsec, hkey, hv⟩

/-- The setting that allows all hosts has one fault or none. -/
theorem allowAllFaults_cases (s : Snapshot) :
    (allowAllFaults s = [] ∧ ¬s.Has .allowAllNotFlag) ∨
      (allowAllFaults s = [.allowAllNotFlag] ∧ s.Has .allowAllNotFlag) := by
  rw [has_allowAllNotFlag_iff]
  unfold allowAllFaults
  cases s.value? "backend" "allowall" with
  | none => exact .inl ⟨rfl, nofun⟩
  | some v =>
    have hhas : (∃ w, some v = some w ∧ Unreadable w) ↔ Unreadable v := by simp
    rw [hhas]
    cases v with
    | flag b => exact .inl ⟨rfl, fun h => h.1 rfl⟩
    | text t =>
      dsimp only
      cases ht : flagOfText? t with
      | some b =>
        refine .inl ⟨rfl, fun h => ?_⟩
        rw [h.2 t rfl] at ht
        cases ht
      | none =>
        refine .inr ⟨rfl, nofun, fun text htext => ?_⟩
        cases htext
        exact ht
    | integer n | real x | moment written | list items | table entries =>
      exact .inr ⟨rfl, nofun, nofun⟩

/-! ## What is found -/

section

variable {s : Snapshot} (hordered : s.Ordered)

include hordered

theorem Snapshot.Ordered.find?_iff {name : String} {v : Value} :
    s.sections.find? name = some v ↔ (name, v) ∈ s.sections :=
  ⟨Directory.mem_of_find?, fun h => Directory.find?_of_mem hordered.sections h⟩

theorem Snapshot.Ordered.keys_of_find? {name : String} {t : Table}
    (h : s.sections.find? name = some (.table t)) : t.Ascending :=
  hordered.keys _ (Directory.mem_of_find? h) t rfl

theorem mem_sectionFaults {f : Fault} :
    f ∈ s.sections.flatMap (fun p => entryFaults p.1 p.2) ↔
      s.Has f ∧ f ≠ .allowAllNotFlag := by
  rw [List.mem_flatMap]
  constructor
  · rintro ⟨⟨name, v⟩, hp, hf⟩
    have hfind := hordered.find?_iff.mpr hp
    rcases mem_entryFaults.mp hf with ⟨rfl, hkind⟩ | ⟨t, q, rfl, hq, hnested, rfl⟩
    · exact ⟨⟨v, hfind, hkind⟩, nofun⟩
    · have hkey := Directory.find?_of_mem (hordered.keys_of_find? hfind) hq
      exact ⟨⟨t, q.2, hfind, hkey, isNested_iff.mp hnested⟩, nofun⟩
  · rintro ⟨hhas, hne⟩
    cases f with
    | notSection name =>
      obtain ⟨v, hfind, hkind⟩ := hhas
      exact ⟨(name, v), hordered.find?_iff.mp hfind, mem_entryFaults.mpr (.inl ⟨rfl, hkind⟩)⟩
    | notScalar sec key =>
      obtain ⟨t, v, hfind, hkey, hkind⟩ := hhas
      refine ⟨(sec, .table t), hordered.find?_iff.mp hfind, mem_entryFaults.mpr (.inr ?_)⟩
      exact ⟨t, (key, v), rfl, Directory.mem_of_find? hkey, isNested_iff.mpr hkind, rfl⟩
    | allowAllNotFlag => exact absurd rfl hne

/-- The faults that are found are those that the snapshot has. -/
theorem mem_faults (f : Fault) : f ∈ s.faults ↔ s.Has f := by
  unfold Snapshot.faults
  rw [List.mem_append, mem_sectionFaults hordered]
  rcases allowAllFaults_cases s with ⟨hnil, hhas⟩ | ⟨hone, hhas⟩
  · rw [hnil]
    constructor
    · rintro (h | h)
      · exact h.1
      · cases h
    · intro h
      exact .inl ⟨h, fun hf => hhas (hf ▸ h)⟩
  · rw [hone, List.mem_singleton]
    constructor
    · rintro (h | rfl)
      · exact h.1
      · exact hhas
    · intro h
      by_cases hf : f = .allowAllNotFlag
      · exact .inr hf
      · exact .inl ⟨h, hf⟩

end

/-! ## Their order -/

/-- The section that a fault is in; that of the setting that allows all hosts counts for none. -/
def Fault.section? : Fault → Option String
  | .notSection name => some name
  | .notScalar sec _ => some sec
  | .allowAllNotFlag => none

/-- The order of faults: by sections, within a section by keys, and that of the setting that allows
    all hosts last. -/
inductive Fault.Before : Fault → Fault → Prop
  | sections {f g : Fault} {a b : String} (hf : f.section? = some a) (hg : g.section? = some b)
    (hlt : a < b) : Before f g
  | keys {sec k l : String} (hlt : k < l) : Before (.notScalar sec k) (.notScalar sec l)
  | last {f : Fault} {a : String} (hf : f.section? = some a) : Before f .allowAllNotFlag

theorem Fault.not_before_self (f : Fault) : ¬f.Before f := by
  intro h
  cases h with
  | sections hf hg hlt =>
    cases hf.symm.trans hg
    exact lt_irrefl _ hlt
  | keys hlt => exact lt_irrefl _ hlt
  | last hf => cases hf

theorem section?_of_mem_entryFaults {name : String} {v : Value} {f : Fault}
    (h : f ∈ entryFaults name v) : f.section? = some name := by
  rcases mem_entryFaults.mp h with ⟨rfl, -⟩ | ⟨t, p, -, -, -, rfl⟩ <;> rfl

theorem pairwise_entryFaults {name : String} {v : Value} (hv : v.Ordered) :
    (entryFaults name v).Pairwise Fault.Before := by
  unfold entryFaults
  cases ht : v.table? with
  | none => exact List.pairwise_singleton _ _
  | some t =>
    have hkeys : t.Pairwise fun p q => p.1 < q.1 := List.pairwise_map.mp (hv t ht)
    exact List.pairwise_map.mpr ((hkeys.filter _).imp .keys)

theorem pairwise_faults {s : Snapshot} (hordered : s.Ordered) : s.faults.Pairwise Fault.Before := by
  have hsections : s.sections.Pairwise fun p q => p.1 < q.1 :=
    List.pairwise_map.mp hordered.sections
  unfold Snapshot.faults
  refine List.pairwise_append.mpr ⟨List.pairwise_flatMap.mpr ⟨?_, ?_⟩, ?_, ?_⟩
  · exact fun p hp => pairwise_entryFaults (hordered.keys p hp)
  · exact hsections.imp fun hlt f hf g hg =>
      .sections (section?_of_mem_entryFaults hf) (section?_of_mem_entryFaults hg) hlt
  · rcases allowAllFaults_cases s with ⟨hnil, -⟩ | ⟨hone, -⟩
    · rw [hnil]
      exact .nil
    · rw [hone]
      exact List.pairwise_singleton _ _
  · intro f hf g hg
    obtain ⟨p, -, hfp⟩ := List.mem_flatMap.mp hf
    rcases allowAllFaults_cases s with ⟨hnil, -⟩ | ⟨hone, -⟩
    · rw [hnil] at hg
      cases hg
    · rw [hone, List.mem_singleton] at hg
      exact hg ▸ .last (section?_of_mem_entryFaults hfp)

theorem nodup_faults {s : Snapshot} (hordered : s.Ordered) : s.faults.Nodup := by
  apply (pairwise_faults hordered).imp
  rintro f g hbefore rfl
  exact f.not_before_self hbefore

/-! ## Settings that are let through -/

theorem load_eq_ok_iff {text : String} {s : Snapshot} :
    Snapshot.load text = .ok s ↔ Snapshot.ofText? text = some s ∧ s.faults = [] := by
  unfold Snapshot.load
  cases Snapshot.ofText? text with
  | none => exact ⟨nofun, fun h => nomatch h.1⟩
  | some s' =>
    dsimp only
    by_cases hfaults : s'.faults = []
    · rw [if_pos (List.isEmpty_iff.mpr hfaults)]
      constructor
      · rintro ⟨⟩
        exact ⟨rfl, hfaults⟩
      · rintro ⟨⟨⟩, -⟩
        rfl
    · rw [if_neg fun h => hfaults (List.isEmpty_iff.mp h)]
      constructor
      · nofun
      · rintro ⟨⟨⟩, h⟩
        exact absurd h hfaults

/-- Where its fault is not there, the setting that allows all hosts is either not there or read as
    a truth value. -/
theorem allowAll_readable {s : Snapshot} (h : ¬s.Has .allowAllNotFlag) :
    s.value? "backend" "allowall" = none ∨ (s.source.flag? "backend" "allowall").isSome = true := by
  rw [has_allowAllNotFlag_iff] at h
  unfold Snapshot.source
  dsimp only
  cases hvalue : s.value? "backend" "allowall" with
  | none => exact .inl rfl
  | some v =>
    right
    exact isSome_flagOf?_of_not_unreadable fun hv => h ⟨v, hvalue, hv⟩

theorem faults_of_load {file : File} {s : Snapshot} (h : file.load = .ok s) :
    s.Ordered ∧ s.faults = [] := by
  cases file with
  | missing => cases h
  | bytes content =>
    unfold File.load at h
    dsimp only at h
    split at h
    · cases h
    · obtain ⟨hread, hfaults⟩ := load_eq_ok_iff.mp h
      exact ⟨ordered_of_ofText? hread, hfaults⟩

/-- **Exactly the faults.** In a snapshot, whose names are in order as are those of every one that
    was read, the faults that are found are those that it has, each once, those of sections in the
    order of sections and keys and that of the setting that allows all hosts last. Settings are let
    through exactly if they have none. Where the fault of the setting that allows all hosts is not
    found, the setting is missing or can be read; so in a file that was let through it is never
    there without being read. -/
theorem faults_exact :
    (∀ s : Snapshot, s.Ordered → (∀ f, f ∈ s.faults ↔ s.Has f) ∧ s.faults.Nodup ∧
      s.faults.Pairwise Fault.Before ∧ (s.faults = [] ↔ ∀ f, ¬s.Has f) ∧
      (.allowAllNotFlag ∉ s.faults → s.value? "backend" "allowall" = none ∨
        (s.source.flag? "backend" "allowall").isSome = true)) ∧
    (∀ text s, Snapshot.ofText? text = some s →
      s.Ordered ∧ (Snapshot.load text = .ok s ↔ ∀ f, ¬s.Has f)) ∧
    ∀ (file : File) s, file.load = .ok s → (s.value? "backend" "allowall").isSome = true →
      (s.source.flag? "backend" "allowall").isSome = true := by
  have hnone : ∀ s : Snapshot, s.Ordered → (s.faults = [] ↔ ∀ f, ¬s.Has f) := by
    intro s hordered
    rw [List.eq_nil_iff_forall_not_mem]
    simp only [mem_faults hordered]
  refine ⟨fun s hordered => ?_, fun text s hread => ?_, fun file s hload hgiven => ?_⟩
  · refine ⟨mem_faults hordered, nodup_faults hordered, pairwise_faults hordered,
      hnone s hordered, fun hnot => ?_⟩
    rw [mem_faults hordered] at hnot
    exact allowAll_readable hnot
  · have hordered := ordered_of_ofText? hread
    refine ⟨hordered, ?_⟩
    rw [load_eq_ok_iff, hnone s hordered]
    exact ⟨And.right, fun h => ⟨hread, h⟩⟩
  · obtain ⟨hordered, hfaults⟩ := faults_of_load hload
    rcases allowAll_readable ((hnone s hordered).mp hfaults .allowAllNotFlag) with hvalue | hsome
    · rw [hvalue] at hgiven
      cases hgiven
    · exact hsome

/-- Settings with a fault of each kind, two of them in one place. -/
def faulty : Snapshot :=
  ⟨[("backend", .table [("allowall", .list []), ("backends", .list [.text "a", .text "b"])]),
    ("stray", .integer 1)]⟩

/-- A file that allows all hosts by a text. -/
def permissive : File := .bytes "[backend]\nallowall = \" On\"".toUTF8

theorem faults_exact_faulty :
    faulty.Ordered ∧
      (∀ f ∈ [.notScalar "backend" "allowall", .notScalar "backend" "backends",
        .notSection "stray", .allowAllNotFlag], f ∈ faulty.faults) ∧ faulty.faults.Nodup ∧
      ∃ s, permissive.load = .ok s ∧ (s.source.flag? "backend" "allowall").isSome = true := by
  have hordered : faulty.Ordered := by
    refine ⟨by unfold Directory.Ascending; decide, fun p hp t ht => ?_⟩
    rcases List.mem_cons.mp hp with rfl | hp
    · cases ht
      unfold Directory.Ascending
      decide
    · cases List.mem_singleton.mp hp
      cases ht
  have hgiven : (permissive.load.toOption.bind (·.value? "backend" "allowall")).isSome = true := by
    decide +kernel
  obtain ⟨hfaults, -, hfiles⟩ := faults_exact
  obtain ⟨hmem, hnodup, -⟩ := hfaults faulty hordered
  refine ⟨hordered, ?_, hnodup, ?_⟩
  · intro f hf
    rw [hmem]
    revert f
    simp only [List.forall_mem_cons]
    refine ⟨⟨_, _, rfl, rfl, .inl rfl⟩, ⟨_, _, rfl, rfl, .inl rfl⟩, ⟨_, rfl, nofun⟩,
      ⟨_, _, rfl, rfl, nofun, nofun⟩, nofun⟩
  · cases hload : permissive.load with
    | error fault =>
      rw [hload] at hgiven
      cases hgiven
    | ok s =>
      rw [hload] at hgiven
      exact ⟨s, rfl, hfiles permissive s hload hgiven⟩

end Switchboard.Settings
