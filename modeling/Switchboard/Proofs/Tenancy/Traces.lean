import Mathlib.Data.List.Nodup
import Switchboard.Proofs.Tenancy.WellFormed
/-
  What becomes of listed ids. The section of an id either gives a backend or is refused with one
  notice that names the id (`refused`), and no id is listed twice; so among all that comes of a list
  an id finds what came of its own section and nothing else (`filter_filterMap_key`). The table
  groups the backends by host and the notices stay in a list, but neither changes which of them
  carry an id, and both keep the order of the ids.

  `listed_ids_traced` says this of every configuration. In a start with listed backends the same
  notices are reported, and one more for each entry of the table.
-/
namespace Switchboard

/-- The backend that a notice names. -/
def Notice.backend? (n : Notice) : Option String := n.fields.lookup "backend"

namespace Tenancy

open Switchboard.Settings (Source)

/-! ## Lists with keys -/

section

variable {α β : Type} {f : α → Option β} {key : β → Option α}

theorem filterMap_key (hkey : ∀ a b, f a = some b → key b = some a) (l : List α) :
    (l.filterMap f).map key = (l.filter (f · |>.isSome)).map some := by
  induction l with
  | nil => rfl
  | cons a rest ih =>
    rw [List.filterMap_cons, List.filter_cons]
    cases hf : f a with
    | none => exact ih
    | some b =>
      rw [if_pos Option.isSome_some, List.map_cons, List.map_cons, ih, hkey a b hf]

/-- What comes of a list without repetition has, under the key of an element, what came of it. -/
theorem filter_filterMap_key [DecidableEq α] (hkey : ∀ a b, f a = some b → key b = some a)
    {l : List α} (hl : l.Nodup) {a : α} (ha : a ∈ l) :
    (l.filterMap f).filter (key · = some a) = (f a).toList := by
  have hown : (l.filterMap f).filter (key · = some a) = (l.filter (· = a)).filterMap f := by
    rw [List.filter_filterMap, List.filterMap_filter]
    refine List.filterMap_congr fun x _ => ?_
    cases hf : f x with
    | none => simp
    | some b => simp [Option.filter_some, hkey x b hf]
  rw [hown, List.filter_eq, List.count_eq_one_of_mem hl ha, List.replicate_one]
  cases hf : f a with
  | none => simp [hf]
  | some b => simp [hf]

end

/-! ## One section -/

/-- What is wrong with the section of an id. -/
def refusal? (s : Source) (id : String) : Option Notice :=
  match configured s id with
  | .ok _ => none
  | .error n => some n

theorem configuredNotices_eq_filterMap (s : Source) :
    configuredNotices s = (backendIds s).filterMap (refusal? s) := rfl

/-- A section is refused for one of three reasons, and each notice has the id. -/
theorem refused {s : Source} {id : String} {n : Notice} (h : refusal? s id = some n) :
    n = .backendIncomplete id ∨ (∃ url, n = .backendWithoutHost id url) ∨
      ∃ url fault, n = .backendUrlInvalid id url fault := by
  have herror : configured s id = .error n := by
    unfold refusal? at h
    split at h
    · cases h
    · next hn => rw [hn, Option.some.inj h]
  unfold configured at herror
  split at herror
  · cases herror
    exact .inl rfl
  · dsimp only at herror
    split at herror
    · cases herror
      exact .inr (.inr ⟨_, _, rfl⟩)
    · split at herror
      · cases herror
        exact .inr (.inl ⟨_, rfl⟩)
      · split at herror
        · cases herror
          exact .inl rfl
        · cases herror

theorem backend?_refused {s : Source} (id : String) (n : Notice) (h : refusal? s id = some n) :
    n.backend? = some id := by
  rcases refused h with rfl | ⟨url, rfl⟩ | ⟨url, fault, rfl⟩ <;> rfl

theorem level_refused {s : Source} {id : String} {n : Notice} (h : refusal? s id = some n) :
    n.level = .warn := by
  rcases refused h with rfl | ⟨url, rfl⟩ | ⟨url, fault, rfl⟩ <;> rfl

/-- A section is refused exactly if it is not complete. -/
theorem refusal?_isSome (s : Source) (id : String) :
    (refusal? s id).isSome = (completeSection? s id).isNone := by
  have hplaced := congrArg Option.isNone (toOption_configured s id)
  rw [Option.isNone_map] at hplaced
  rw [← hplaced]
  unfold refusal?
  cases configured s id <;> rfl

theorem id_placed {s : Source} (id : String) (p : Placed)
    (h : (configured s id).toOption = some p) : some p.2.id = some id := by
  rw [toOption_configured] at h
  obtain ⟨section', -, rfl⟩ := Option.map_eq_some_iff.mp h
  rfl

/-! ## All sections -/

/-- The entries of the table of the listed backends that have an id, with their host keys. -/
def entriesOf (s : Source) (id : String) : List Placed :=
  (configuredTable s).pairs.filter (·.2.id = id)

/-- The notices about the listed backends that name an id. -/
def noticesOf (s : Source) (id : String) : List Notice :=
  (configuredNotices s).filter (·.backend? = some id)

/-- What an id leaves behind: either the one entry that its section describes, or one warning. -/
inductive Traced (s : Source) (id : String) : Prop
  | entry (url : Url) (secret : String)
    (complete : completeSection? s id = some (url, secret))
    (entries : entriesOf s id = [(url.hostKey, .ofUrl id url (.ofText secret))])
    (notices : noticesOf s id = [])
  | warning (n : Notice)
    (incomplete : completeSection? s id = none)
    (level : n.level = .warn)
    (notices : noticesOf s id = [n])
    (entries : entriesOf s id = [])

theorem entriesOf_perm {s : Source} {id : String} (hid : id ∈ backendIds s) :
    (entriesOf s id).Perm (configured s id).toOption.toList := by
  have hperm := (HostTable.perm_pairs_ofList (placedBackends s)).filter (·.2.id = id)
  have hown : (placedBackends s).filter (fun p => some p.2.id = some id) =
      (configured s id).toOption.toList :=
    filter_filterMap_key id_placed (nodup_backendIds s) hid
  simp only [Option.some.injEq] at hown
  rw [← hown]
  exact hperm

theorem noticesOf_eq {s : Source} {id : String} (hid : id ∈ backendIds s) :
    noticesOf s id = (refusal? s id).toList :=
  filter_filterMap_key backend?_refused (nodup_backendIds s) hid

/-- Every listed id leaves one trace. -/
theorem traced_of_mem {s : Source} {id : String} (hid : id ∈ backendIds s) : Traced s id := by
  have hentries := entriesOf_perm hid
  have hnotices := noticesOf_eq hid
  have hrefused := refusal?_isSome s id
  rw [toOption_configured] at hentries
  cases hcomplete : completeSection? s id with
  | some p =>
    obtain ⟨url, secret⟩ := p
    rw [hcomplete] at hentries hrefused
    rw [Option.not_isSome_iff_eq_none.mp (ne_true_of_eq_false hrefused)] at hnotices
    exact .entry url secret hcomplete (List.perm_singleton.mp hentries) hnotices
  | none =>
    rw [hcomplete] at hentries hrefused
    obtain ⟨n, hn⟩ := Option.isSome_iff_exists.mp hrefused
    rw [hn] at hnotices
    exact .warning n hcomplete (level_refused hn) hnotices (List.perm_nil.mp hentries)

/-- The notices name listed ids, in their order. -/
theorem notices_sublist (s : Source) :
    ((configuredNotices s).map Notice.backend?).Sublist ((backendIds s).map some) := by
  rw [configuredNotices_eq_filterMap, filterMap_key backend?_refused]
  exact List.filter_sublist.map some

/-- Under each host key stand entries of listed ids, in their order. -/
theorem ids_row_sublist (s : Source) (host : String) :
    (((configuredTable s).row host).map (·.id)).Sublist (backendIds s) := by
  unfold configuredTable
  rw [HostTable.row_ofList, List.map_map]
  exact (List.filter_sublist.map _).trans (ids_placedBackends_sublist s)

/-- There are as many entries and notices as ids. -/
theorem length_traces (s : Source) :
    (configuredTable s).values.length + (configuredNotices s).length = (backendIds s).length := by
  have hentries : (configuredTable s).values.length =
      (backendIds s).countP fun id => (completeSection? s id).isSome := by
    unfold configuredTable
    rw [(HostTable.perm_values_ofList _).length_eq, List.length_map]
    unfold placedBackends
    rw [List.length_filterMap_eq_countP]
    refine List.countP_congr fun id _ => ?_
    rw [toOption_configured, Option.isSome_map]
  have hnotices : (configuredNotices s).length =
      (backendIds s).countP fun id => ¬(completeSection? s id).isSome := by
    rw [configuredNotices_eq_filterMap, List.length_filterMap_eq_countP]
    refine List.countP_congr fun id _ => ?_
    rw [refusal?_isSome, ← Option.not_isSome]
    simp
  rw [hentries, hnotices, ← List.length_eq_countP_add_countP]

/-! ## Starts with listed backends -/

theorem notices_ofSource {s : Source} (hall : allowsAllHosts s = false)
    (hlists : listsBackends s = true) :
    (Registry.ofSource s).2 = (Registry.ofBackends s).2 := by
  unfold allowsAllHosts at hall
  unfold Registry.ofSource
  rw [if_neg (ne_true_of_eq_false hall), if_pos hlists]

/-- The notice that an entry has been added. -/
def addedNotice (b : Backend) : Notice := .backendAdded b.id b.url

/-- The notice that a list of allowed hosts is left aside, if there is such a list. -/
def ignoredNotices (s : Source) : List Notice :=
  if (Registry.allowedSetting s).isSome then [.allowedIgnored] else []

theorem notices_ofBackends (s : Source) :
    (Registry.ofBackends s).2 =
      ignoredNotices s ++ configuredNotices s ++ (configuredTable s).values.map addedNotice := by
  rw [← stampedTable_backends s 0, HostTable.values_backends, List.map_map]
  rfl

/-- Of the notices of a start with listed backends, those on entries are one for each entry. -/
theorem added_ofSource {s : Source} (hall : allowsAllHosts s = false)
    (hlists : listsBackends s = true) :
    (Registry.ofSource s).2.filter (·.message = "Backend added") =
      (configuredTable s).values.map addedNotice := by
  have hignored : (ignoredNotices s).filter (·.message = "Backend added") = [] := by
    unfold ignoredNotices
    split <;> decide
  have hrefused : (configuredNotices s).filter (·.message = "Backend added") = [] := by
    rw [List.filter_eq_nil_iff]
    intro n hn
    obtain ⟨id, -, hid⟩ := List.mem_filterMap.mp hn
    rcases refused hid with rfl | ⟨url, rfl⟩ | ⟨url, fault, rfl⟩ <;> simp [Notice.message]
  rw [notices_ofSource hall hlists, notices_ofBackends, List.filter_append, List.filter_append,
    hignored, hrefused, List.nil_append, List.nil_append, List.filter_eq_self]
  intro n hn
  obtain ⟨b, -, rfl⟩ := List.mem_map.mp hn
  rfl

/-- Of the notices of a start with listed backends, the warnings that name a backend are those of
    the sections that were refused. -/
theorem warnings_ofSource {s : Source} (hall : allowsAllHosts s = false)
    (hlists : listsBackends s = true) :
    (Registry.ofSource s).2.filter (fun n => n.level = .warn ∧ n.backend?.isSome) =
      configuredNotices s := by
  have hignored : (ignoredNotices s).filter (fun n => n.level = .warn ∧ n.backend?.isSome) =
      [] := by
    unfold ignoredNotices
    split <;> decide
  have hadded : ((configuredTable s).values.map addedNotice).filter
      (fun n => n.level = .warn ∧ n.backend?.isSome) = [] := by
    rw [List.filter_eq_nil_iff]
    intro n hn
    obtain ⟨b, -, rfl⟩ := List.mem_map.mp hn
    simp [addedNotice, Notice.level]
  rw [notices_ofSource hall hlists, notices_ofBackends, List.filter_append, List.filter_append,
    hignored, hadded, List.nil_append, List.append_nil, List.filter_eq_self]
  intro n hn
  obtain ⟨id, -, hid⟩ := List.mem_filterMap.mp hn
  simp [level_refused hid, backend?_refused id n hid]

/-- **No listed backend disappears silently.** Every id of the list leaves one trace: one entry
    under the host key of the URL of its section, with this id, the normal form of the URL and the
    secret of the section, or one warning that names it, and never both. The warnings come in the
    order of the list, and so do the entries of each host; together they are as many as the ids.
    A start that lists backends, unless it allows all hosts, has this table, and reports these
    warnings and one notice for each entry. -/
theorem listed_ids_traced (s : Source) :
    (∀ id ∈ backendIds s, Traced s id) ∧
      ((configuredNotices s).map Notice.backend?).Sublist ((backendIds s).map some) ∧
      (∀ host, (((configuredTable s).row host).map (·.id)).Sublist (backendIds s)) ∧
      (configuredTable s).values.length + (configuredNotices s).length = (backendIds s).length ∧
      (allowsAllHosts s = false → listsBackends s = true →
        (Registry.ofSource s).1.hosts.backends = configuredTable s ∧
        ((Registry.ofSource s).2.filter (·.message = "Backend added")).Perm
          ((configuredTable s).values.map fun b => .backendAdded b.id b.url) ∧
        (Registry.ofSource s).2.filter (fun n => n.level = .warn ∧ n.backend?.isSome) =
          configuredNotices s) := by
  refine ⟨fun id hid => traced_of_mem hid, notices_sublist s, ids_row_sublist s, length_traces s,
    fun hall hlists => ⟨?_, ?_, warnings_ofSource hall hlists⟩⟩
  · rw [ofSource_of_listsBackends hall hlists, backends_ofBackends]
  · rw [added_ofSource hall hlists]
    exact .refl _

/-- A list with blanks and a repetition, of sections of every kind. -/
def mixedSections : Source := textSettings
  [("backend", [("allowed", "h"),
      ("backends", "second, , nourl, bare, second, broken, nosecret, first")]),
    ("bare", [("url", "data:x"), ("secret", "a")]),
    ("broken", [("url", "https://h:port/"), ("secret", "b")]),
    ("first", [("url", "https://h/f"), ("secret", "c")]),
    ("nosecret", [("url", "https://h/n/"), ("secret", "")]),
    ("nourl", [("secret", "d")]),
    ("second", [("url", "https://h/s/"), ("secret", "e")])]

theorem listed_ids_traced_mixed :
    let ids := ["second", "nourl", "bare", "broken", "nosecret", "first"]
    backendIds mixedSections = ids ∧ (∀ id ∈ ids, Traced mixedSections id) ∧
      (configuredNotices mixedSections).map Notice.backend? =
        [some "nourl", some "bare", some "broken", some "nosecret"] ∧
      ((configuredTable mixedSections).row "h").map (·.id) = ["second", "first"] ∧
      allowsAllHosts mixedSections = false ∧ listsBackends mixedSections = true ∧
      ((Registry.ofSource mixedSections).2.filter (·.message = "Backend added")).length = 2 := by
  intro ids
  have hids : backendIds mixedSections = ids := by decide +kernel
  have hall : allowsAllHosts mixedSections = false := by decide
  have hlists : listsBackends mixedSections = true := by decide
  obtain ⟨htraced, -, -, -, hstart⟩ := listed_ids_traced mixedSections
  obtain ⟨-, hadded, -⟩ := hstart hall hlists
  have htwo : (configuredTable mixedSections).values.length = 2 := by decide +kernel
  rw [hids] at htraced
  refine ⟨hids, htraced, by decide +kernel, by decide +kernel, hall, hlists, ?_⟩
  rw [hadded.length_eq, List.length_map, htwo]

end Tenancy

end Switchboard
