import Switchboard.Proofs.Tenancy.Answers
import Switchboard.Tenancy.Reload
/-
  Runs of reloads. One reload either changes nothing or leaves a table that says what the listed
  backends of the new settings say (`backends_reload`), whatever was merged; the mode, the common
  secret and the shared entry stay. By induction the last settings of a run that list backends
  decide what the table says (`backends_reloadAll`), and `reloadAll_forgets_history` reads off the
  answers: they depend on the start and on these settings alone.

  Tables and answers are compared by value: `backends` leaves out the stamps.
-/
namespace Switchboard.Tenancy

open Switchboard.Settings (Source)

/-! ## One reload -/

theorem backend_of_sameBackend? {existing : List Entry} {e x : Entry}
    (h : sameBackend? existing e = some x) : x.backend = e.backend := by
  unfold sameBackend? at h
  have hx := List.find?_some h
  exact eq_of_beq hx

/-- What stands in for a wanted entry has the backend that is wanted. -/
theorem backend_sameBackend?_getD (existing : List Entry) (e : Entry) :
    ((sameBackend? existing e).getD e).backend = e.backend := by
  cases h : sameBackend? existing e with
  | none => rfl
  | some x => exact backend_of_sameBackend? h

theorem map_backend_merged (existing wanted : List Entry) :
    (merged existing wanted).map (·.backend) = wanted.map (·.backend) := by
  unfold merged
  rw [List.map_map]
  exact List.map_congr_left fun e _ => backend_sameBackend?_getD existing e

/-- Whatever is carried over, the new table says what the target says. -/
theorem backends_nextTable (current target : HostTable Entry) :
    (nextTable current target).backends = target.backends := by
  unfold nextTable HostTable.backends HostTable.mapValues
  rw [List.map_map]
  apply List.map_congr_left
  intro p _
  exact congrArg (Prod.mk p.1) (map_backend_merged (current.row p.1) p.2)

theorem reload_of_not_listsBackends (r : Registry) {s : Source} (h : listsBackends s = false) :
    (r.reload s).registry = r := by
  unfold Registry.reload
  rw [h]
  rfl

theorem hosts_reload (r : Registry) {s : Source} (h : listsBackends s = true) :
    (r.reload s).registry.hosts = nextTable r.hosts (stampedTable s r.nextStamp) := by
  unfold Registry.reload
  rw [if_pos h]

theorem backends_reload (r : Registry) {s : Source} (h : listsBackends s = true) :
    (r.reload s).registry.hosts.backends = configuredTable s := by
  rw [hosts_reload r h, backends_nextTable, stampedTable_backends]

/-- A reload leaves everything but the table and the next stamp. -/
theorem frame_reload (r : Registry) (s : Source) :
    (r.reload s).registry.allowAll = r.allowAll ∧
      (r.reload s).registry.commonSecret = r.commonSecret ∧
      (r.reload s).registry.shared = r.shared := by
  unfold Registry.reload
  split <;> exact ⟨rfl, rfl, rfl⟩

/-! ## Runs -/

/-- The registry after reloads, one after the other. -/
def Registry.reloadAll (r : Registry) : List Source → Registry
  | [] => r
  | s :: rest => (r.reload s).registry.reloadAll rest

/-- What every reload keeps, every run of reloads keeps. -/
theorem reloadAll_induction {P : Registry → Prop}
    (hstep : ∀ r s, P r → P (r.reload s).registry) {r : Registry} (hr : P r) (run : List Source) :
    P (r.reloadAll run) := by
  induction run generalizing r with
  | nil => exact hr
  | cons s rest ih => exact ih (hstep r s hr)

/-- What the table of a registry says after reloads: what the last settings that list backends say,
    or what it said before if there are none. -/
def settledTable (before : HostTable Backend) (run : List Source) : HostTable Backend :=
  match run.findRev? listsBackends with
  | some s => configuredTable s
  | none => before

theorem settledTable_cons (before : HostTable Backend) (s : Source) (rest : List Source) :
    settledTable before (s :: rest) =
      settledTable (if listsBackends s then configuredTable s else before) rest := by
  have hcons : (s :: rest).findRev? listsBackends =
      (rest.findRev? listsBackends).or (if listsBackends s then some s else none) := by
    rw [List.findRev?]
    cases rest.findRev? listsBackends <;> rfl
  unfold settledTable
  rw [hcons]
  cases rest.findRev? listsBackends with
  | some t => rfl
  | none => cases listsBackends s <;> rfl

theorem settledTable_append_singleton (before : HostTable Backend) (run : List Source) (s : Source) :
    settledTable before (run ++ [s]) =
      if listsBackends s then configuredTable s else settledTable before run := by
  induction run generalizing before with
  | nil => rw [List.nil_append, settledTable_cons]; rfl
  | cons t rest ih => rw [List.cons_append, settledTable_cons, ih, ← settledTable_cons]

/-- Either no settings of the run list backends and the table says what it said before, or it says
    what some of them say. -/
theorem settledTable_cases (before : HostTable Backend) (run : List Source) :
    (settledTable before run = before ∧ ∀ s ∈ run, listsBackends s = false) ∨
      ∃ s ∈ run, listsBackends s = true ∧ settledTable before run = configuredTable s := by
  unfold settledTable
  rw [List.findRev?_eq_find?_reverse]
  cases h : run.reverse.find? listsBackends with
  | none =>
    left
    refine ⟨rfl, fun s hs => ?_⟩
    exact eq_false_of_ne_true (List.find?_eq_none.mp h s (List.mem_reverse.mpr hs))
  | some s =>
    right
    exact ⟨s, List.mem_reverse.mp (List.mem_of_find?_eq_some h), List.find?_some h, rfl⟩

theorem backends_reloadAll (r : Registry) (run : List Source) :
    (r.reloadAll run).hosts.backends = settledTable r.hosts.backends run := by
  -- Each reload makes another registry, of which only what its table says is used.
  induction run generalizing r with
  | nil => rfl
  | cons s rest ih =>
    rw [Registry.reloadAll, ih, settledTable_cons]
    cases h : listsBackends s with
    | true => rw [backends_reload r h, if_pos rfl]
    | false => rw [reload_of_not_listsBackends r h, if_neg Bool.false_ne_true]

theorem frame_reloadAll (r : Registry) (run : List Source) :
    (r.reloadAll run).allowAll = r.allowAll ∧ (r.reloadAll run).commonSecret = r.commonSecret ∧
      (r.reloadAll run).shared = r.shared := by
  refine reloadAll_induction (P := fun x => x.allowAll = r.allowAll ∧
    x.commonSecret = r.commonSecret ∧ x.shared = r.shared) ?_ ⟨rfl, rfl, rfl⟩ run
  rintro x s ⟨hallow, hcommon, hshared⟩
  obtain ⟨ha, hc, hs⟩ := frame_reload x s
  exact ⟨ha.trans hallow, hc.trans hcommon, hs.trans hshared⟩

theorem fallback?_reloadAll (r : Registry) (run : List Source) :
    (r.reloadAll run).fallback? = r.fallback? := by
  obtain ⟨ha, -, hs⟩ := frame_reloadAll r run
  unfold Registry.fallback?
  rw [ha, hs]

theorem fallback?_reload (r : Registry) (s : Source) :
    (r.reload s).registry.fallback? = r.fallback? := fallback?_reloadAll r [s]

/-- What a URL belongs to after reloads. -/
theorem backend_resolve?_reloadAll (r : Registry) (run : List Source) (u : Url) :
    ((r.reloadAll run).resolve? u).map (·.backend) =
      ((settledTable r.hosts.backends run).firstClaim? u).or (r.fallback?.map (·.backend)) := by
  rw [backend_resolve?, backends_reloadAll, fallback?_reloadAll]

/-- **Reloads forget history.** After any run of reloads the table says what the last settings that
    list backends say, or what it said at the start if there are none, and nothing else of the
    registry has changed. Hence a URL belongs to the first backend of that table that claims it, or
    else to the shared one if the start allows all hosts; it is allowed if it belongs to one, and
    has that one's secret. A missing URL has neither. -/
theorem reloadAll_forgets_history (start : Source) (run : List Source) :
    let r₀ := (Registry.ofSource start).1
    let r := r₀.reloadAll run
    let table := settledTable r₀.hosts.backends run
    let answer (u : Url) : Option Backend :=
      (table.firstClaim? u).or (if r₀.allowAll then r₀.shared.map (·.backend) else none)
    r.hosts.backends = table ∧ r.allowAll = r₀.allowAll ∧ r.commonSecret = r₀.commonSecret ∧
      r.shared = r₀.shared ∧
      (∀ u, (r.resolve? u).map (·.backend) = answer u ∧
        r.allows (some u) = (answer u).isSome ∧ r.secret? (some u) = (answer u).map (·.secret)) ∧
      r.allows none = false ∧ r.secret? none = none := by
  intro r₀ r table answer
  obtain ⟨hallow, hcommon, hshared⟩ := frame_reloadAll r₀ run
  have hfallback : r₀.fallback?.map (·.backend) =
      if r₀.allowAll then r₀.shared.map (·.backend) else none := by
    unfold Registry.fallback?
    split <;> rfl
  have hanswer : ∀ u, (r.resolve? u).map (·.backend) = answer u := by
    intro u
    rw [backend_resolve?_reloadAll r₀ run u, hfallback]
  refine ⟨backends_reloadAll r₀ run, hallow, hcommon, hshared, ?_, rfl, rfl⟩
  intro u
  refine ⟨hanswer u, ?_, ?_⟩
  · rw [allows_some, hanswer]
  · rw [secret?_some, hanswer]

end Switchboard.Tenancy
