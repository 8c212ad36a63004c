import Switchboard.Proofs.Tenancy.Accounting
import Switchboard.Tenancy.Sharing
/-
  Calls that share a registry, as if they came one after the other. Whatever turns the calls take,
  each reload that is applied has replaced the very table that it computed from, and each look-up
  has its answer from one table that was in force while it ran. So the replacements give an order in
  which the calls could have been made one by one, with the same outcomes and answers
  (`calls_linearized`).

  `Step` tells what a move can do, and `step_cases` that it can do nothing else. `Sound` says for each
  stage of a call what holds of what the call has in hand; as the record of replacements only grows,
  it stays so (`Sound.mono`). `Coherent` asks this of all calls, and is kept by every step
  (`coherent_step`). What calls do that nobody disturbs is told by `reload_alone` and
  `lookUp_alone`.
-/
namespace Switchboard.Tenancy

open Switchboard.Settings (Source)

namespace Sharing

/-! ## Moves -/

/-- What a move can do. -/
inductive Step (x : Sharing) : Sharing → Prop
  | still : Step x x
  | calledReload (s : Source) : Step x (x.call (.reload s .called))
  | calledLookUp (u : Url) : Step x (x.call (.lookUp u .called))
  | skipped (i began : Nat) (s : Source)
    (hcall : x.calls[i]? = some ⟨began, .reload s .called⟩) (hlists : listsBackends s = false) :
    Step x (x.withWork i (.reload s (.returned .skipped [.keptForLackOfBackends] x.version)))
  | aimed (i began : Nat) (s : Source)
    (hcall : x.calls[i]? = some ⟨began, .reload s .called⟩) (hlists : listsBackends s = true) :
    Step x { x.withWork i (.reload s (.aimed (stampedTable s x.registry.nextStamp))) with
      registry :=
        { x.registry with nextStamp := x.registry.nextStamp + (placedBackends s).length } }
  | loaded (i began : Nat) (s : Source) (target : HostTable Entry)
    (hcall : x.calls[i]? = some ⟨began, .reload s (.aimed target)⟩) :
    Step x (x.withWork i (.reload s (.based target x.version x.registry.hosts)))
  | computed (i began : Nat) (s : Source) (target : HostTable Entry) (version : Nat)
    (current : HostTable Entry)
    (hcall : x.calls[i]? = some ⟨began, .reload s (.based target version current)⟩) :
    Step x (x.withWork i
      (.reload s (.merged target version (nextTable current target) (changes current target))))
  | swapped (i began : Nat) (s : Source) (target next : HostTable Entry) (summary : Summary)
    (hcall : x.calls[i]? = some ⟨began, .reload s (.merged target x.version next summary)⟩) :
    Step x { x.withWork i (.reload s
        (.returned (.applied summary) (configuredNotices s ++ summary.notices) (x.version + 1))) with
      registry := { x.registry with hosts := next }
      swaps := x.swaps ++ [⟨i, s, next⟩] }
  | missed (i began : Nat) (s : Source) (target : HostTable Entry) (version : Nat)
    (next : HostTable Entry) (summary : Summary)
    (hcall : x.calls[i]? = some ⟨began, .reload s (.merged target version next summary)⟩) :
    Step x (x.withWork i (.reload s (.aimed target)))
  | looked (i began : Nat) (u : Url)
    (hcall : x.calls[i]? = some ⟨began, .lookUp u .called⟩) :
    Step x (x.withWork i (.lookUp u (.holding x.version x.registry.hosts)))
  | answered (i began : Nat) (u : Url) (version : Nat) (table : HostTable Entry)
    (hcall : x.calls[i]? = some ⟨began, .lookUp u (.holding version table)⟩) :
    Step x (x.withWork i (.lookUp u
      (.returned version (Registry.resolve? { x.registry with hosts := table } u) x.version)))

theorem step_advanceReload (x : Sharing) (i began : Nat) (s : Source) (stage : Reloading)
    (hcall : x.calls[i]? = some ⟨began, .reload s stage⟩) : Step x (x.advanceReload i s stage) := by
  cases stage with
  | called =>
    rw [advanceReload]
    split
    · next hlists => exact .aimed i began s hcall hlists
    · next hlists => exact .skipped i began s hcall (eq_false_of_ne_true hlists)
  | aimed target => exact .loaded i began s target hcall
  | based target version current => exact .computed i began s target version current hcall
  | merged target version next summary =>
    rw [advanceReload]
    split
    · next hversion =>
      subst hversion
      exact .swapped i began s target next summary hcall
    · exact .missed i began s target version next summary hcall
  | returned outcome notices ended => exact .still

/-- A move can do nothing else. -/
theorem step_cases (x : Sharing) (m : Move) : Step x (x.step m) := by
  cases m with
  | reload s => exact .calledReload s
  | lookUp u => exact .calledLookUp u
  | advance i =>
    dsimp only [step]
    split
    · next began s stage hcall => exact step_advanceReload x i began s stage hcall
    · next began u stage hcall =>
      cases stage with
      | called => exact .looked i began u hcall
      | holding version table => exact .answered i began u version table hcall
      | returned version answer ended => exact .still
    · exact .still

/-- What every step keeps, every run keeps. -/
theorem run_induction {P : Sharing → Prop} (hstep : ∀ x y, Step x y → P x → P y) {x : Sharing}
    (hx : P x) (moves : List Move) : P (x.run moves) :=
  moves.foldlRecOn step hx fun y hy m _ => hstep y _ (step_cases y m) hy

/-! ## Calls -/

/-- The work of no other call changes. -/
theorem calls_withWork_of_ne (x : Sharing) {i j : Nat} (work : Work) (h : i ≠ j) :
    (x.withWork i work).calls[j]? = x.calls[j]? := by
  unfold withWork
  dsimp only
  rw [List.getElem?_modify_ne _ _ h]

theorem calls_withWork_self {x : Sharing} {i began : Nat} {before : Work} (work : Work)
    (hcall : x.calls[i]? = some ⟨began, before⟩) :
    (x.withWork i work).calls[i]? = some ⟨began, work⟩ := by
  unfold withWork
  dsimp only
  rw [List.getElem?_modify_eq, hcall]
  rfl

@[simp] theorem version_withWork (x : Sharing) (i : Nat) (work : Work) :
    (x.withWork i work).version = x.version := rfl

/-! ## Tables -/

/-- All tables that have been in force, each at its version. -/
def tables (r : Registry) (x : Sharing) : List (HostTable Entry) := r.hosts :: x.swaps.map (·.table)

/-- The registry after the replacements before a version, had they been reloads made one by one. -/
def sequential (r : Registry) (x : Sharing) (version : Nat) : Registry :=
  r.reloadAll ((x.swaps.take version).map (·.source))

/-- A reload has replaced the table of a version by what was computed from that table. -/
def Replaces (r : Registry) (x : Sharing) (i : Nat) (s : Source) (version : Nat)
    (summary : Summary) : Prop :=
  ∃ current target, (x.tables r)[version]? = some current ∧ target.backends = configuredTable s ∧
    x.swaps[version]? = some ⟨i, s, nextTable current target⟩ ∧ summary = changes current target

/-- What a URL belongs to by the table of a version. -/
def Answers (r : Registry) (x : Sharing) (u : Url) (version : Nat) (answer : Option Entry) : Prop :=
  ∃ table, (x.tables r)[version]? = some table ∧
    answer = Registry.resolve? { r with hosts := table } u

/-! ## What calls have in hand -/

/-- What a call has in hand is what it should have. -/
def Sound (r : Registry) (x : Sharing) (i : Nat) : Call → Prop
  | ⟨began, .reload _ .called⟩ => began ≤ x.version
  | ⟨began, .reload s (.aimed target)⟩ =>
    began ≤ x.version ∧ listsBackends s = true ∧ target.backends = configuredTable s
  | ⟨began, .reload s (.based target version current)⟩ =>
    began ≤ version ∧ listsBackends s = true ∧ target.backends = configuredTable s ∧
      (x.tables r)[version]? = some current
  | ⟨began, .reload s (.merged target version next summary)⟩ =>
    began ≤ version ∧ listsBackends s = true ∧ target.backends = configuredTable s ∧
      ∃ current, (x.tables r)[version]? = some current ∧ next = nextTable current target ∧
        summary = changes current target
  | ⟨began, .reload s (.returned .skipped notices ended)⟩ =>
    began ≤ ended ∧ ended ≤ x.version ∧ listsBackends s = false ∧
      notices = [.keptForLackOfBackends]
  | ⟨began, .reload s (.returned (.applied summary) notices ended)⟩ =>
    ∃ version, began ≤ version ∧ ended = version + 1 ∧ listsBackends s = true ∧
      Replaces r x i s version summary ∧ notices = configuredNotices s ++ summary.notices
  | ⟨began, .lookUp _ .called⟩ => began ≤ x.version
  | ⟨began, .lookUp _ (.holding version table)⟩ =>
    began ≤ version ∧ (x.tables r)[version]? = some table
  | ⟨began, .lookUp u (.returned version answer ended)⟩ =>
    began ≤ version ∧ version ≤ ended ∧ ended ≤ x.version ∧ Answers r x u version answer

theorem getElem?_of_prefix {α : Type} {l m : List α} {i : Nat} {a : α} (h : l <+: m)
    (ha : l[i]? = some a) : m[i]? = some a := by
  obtain ⟨hi, rfl⟩ := List.getElem?_eq_some_iff.mp ha
  exact List.prefix_iff_getElem?.mp h i hi

section

variable {r : Registry} {x y : Sharing}

theorem tables_mono (h : x.swaps <+: y.swaps) {version : Nat} {t : HostTable Entry}
    (ht : (x.tables r)[version]? = some t) : (y.tables r)[version]? = some t :=
  getElem?_of_prefix ((List.prefix_cons_inj _).mpr (h.map _)) ht

/-- Replacements do not disturb what a call has in hand. -/
theorem Sound.mono {i : Nat} {c : Call} (hc : Sound r x i c) (h : x.swaps <+: y.swaps) :
    Sound r y i c := by
  have hversion : x.version ≤ y.version := h.length_le
  obtain ⟨began, work⟩ := c
  cases work with
  | reload s stage =>
    cases stage with
    | called => exact Nat.le_trans hc hversion
    | aimed target => exact ⟨Nat.le_trans hc.1 hversion, hc.2⟩
    | based target version current =>
      obtain ⟨hbegan, hlists, htarget, hcurrent⟩ := hc
      exact ⟨hbegan, hlists, htarget, tables_mono h hcurrent⟩
    | merged target version next summary =>
      obtain ⟨hbegan, hlists, htarget, current, hcurrent, hmerged⟩ := hc
      exact ⟨hbegan, hlists, htarget, current, tables_mono h hcurrent, hmerged⟩
    | returned outcome notices ended =>
      cases outcome with
      | skipped => exact ⟨hc.1, Nat.le_trans hc.2.1 hversion, hc.2.2⟩
      | applied summary =>
        obtain ⟨version, hbegan, hended, hlists, hreplaces, hnotices⟩ := hc
        obtain ⟨current, target, hcurrent, htarget, hswap, hsummary⟩ := hreplaces
        exact ⟨version, hbegan, hended, hlists, ⟨current, target, tables_mono h hcurrent, htarget,
          getElem?_of_prefix h hswap, hsummary⟩, hnotices⟩
  | lookUp u stage =>
    cases stage with
    | called => exact Nat.le_trans hc hversion
    | holding version table => exact ⟨hc.1, tables_mono h hc.2⟩
    | returned version answer ended =>
      obtain ⟨hbegan, hheld, hended, table, htable, hanswer⟩ := hc
      exact ⟨hbegan, hheld, Nat.le_trans hended hversion, table, tables_mono h htable, hanswer⟩

/-! ## Steps -/

/-- All calls have in hand what they should have, the table in force is the one published last, and
    each replacement was made by a reload that has returned. -/
structure Coherent (r : Registry) (x : Sharing) : Prop where
  rest : x.registry = { r with hosts := x.registry.hosts, nextStamp := x.registry.nextStamp }
  inForce : (x.tables r)[x.version]? = some x.registry.hosts
  calls : ∀ (i : Nat) (c : Call), x.calls[i]? = some c → Sound r x i c
  swaps : ∀ (v : Nat) (w : Swap), x.swaps[v]? = some w →
    listsBackends w.source = true ∧ w.table.backends = configuredTable w.source ∧
      ∃ began summary notices, x.calls[w.call]? =
        some ⟨began, .reload w.source (.returned (.applied summary) notices (v + 1))⟩

theorem coherent_start (r : Registry) : Coherent r (start r) where
  rest := rfl
  inForce := rfl
  calls _ _ hc := nomatch List.getElem?_nil.symm.trans hc
  swaps _ _ hw := nomatch List.getElem?_nil.symm.trans hw

/-- A new call has nothing in hand yet. -/
theorem Coherent.call (h : Coherent r x) (work : Work)
    (hsound : ∀ i, Sound r x i ⟨x.version, work⟩) : Coherent r (x.call work) := by
  refine ⟨h.rest, h.inForce, fun i c hc => ?_, fun v w hw => ?_⟩
  · have hsame (hc : Sound r x i c) : Sound r (x.call work) i c := hc.mono (List.prefix_refl _)
    unfold Sharing.call at hc
    rw [List.getElem?_append, List.getElem?_singleton] at hc
    split at hc
    · exact hsame (h.calls i c hc)
    · split at hc
      · cases hc
        exact hsame (hsound i)
      · cases hc
  · obtain ⟨hlists, htable, began, summary, notices, hcall⟩ := h.swaps v w hw
    exact ⟨hlists, htable, began, summary, notices,
      getElem?_of_prefix (List.prefix_append _ _) hcall⟩

/-- A call that has not replaced a table yet, and does not do so now, may get on. -/
theorem Coherent.withWork (h : Coherent r x) {i began : Nat} {before after : Work}
    (hcall : x.calls[i]? = some ⟨began, before⟩)
    (hopen : ∀ s summary notices ended,
      before ≠ .reload s (.returned (.applied summary) notices ended))
    (hsound : Sound r x i ⟨began, after⟩) (stamp : Nat) :
    Coherent r { x.withWork i after with
      registry := { x.registry with nextStamp := stamp } } := by
  refine ⟨?_, h.inForce, fun j c hc => ?_, fun v w hw => ?_⟩
  · dsimp only
    rw [h.rest]
  · refine Sound.mono (x := x) ?_ (List.prefix_refl _)
    by_cases hij : i = j
    · subst hij
      cases (calls_withWork_self after hcall).symm.trans hc
      exact hsound
    · exact h.calls j c ((calls_withWork_of_ne x after hij).symm.trans hc)
  · obtain ⟨hlists, htable, began', summary, notices, hw'⟩ := h.swaps v w hw
    refine ⟨hlists, htable, began', summary, notices, ?_⟩
    have hne : i ≠ w.call := by
      rintro rfl
      cases hcall.symm.trans hw'
      exact hopen _ _ _ _ rfl
    exact (calls_withWork_of_ne x after hne).trans hw'

/-- A reload that replaces the table has computed from that table. -/
theorem Coherent.swapped (h : Coherent r x) {i began : Nat} {s : Source}
    {target next : HostTable Entry} {summary : Summary}
    (hcall : x.calls[i]? = some ⟨began, .reload s (.merged target x.version next summary)⟩) :
    Coherent r { x.withWork i (.reload s
        (.returned (.applied summary) (configuredNotices s ++ summary.notices) (x.version + 1))) with
      registry := { x.registry with hosts := next }
      swaps := x.swaps ++ [⟨i, s, next⟩] } := by
  obtain ⟨hbegan, hlists, htarget, current, hcurrent, rfl, rfl⟩ := h.calls i _ hcall
  have hgrown : x.swaps <+: x.swaps ++ [⟨i, s, nextTable current target⟩] := List.prefix_append _ _
  have hlast : (x.swaps ++ [⟨i, s, nextTable current target⟩])[x.version]? =
      some ⟨i, s, nextTable current target⟩ := List.getElem?_concat_length
  refine ⟨?_, ?_, fun j c hc => ?_, fun v w hw => ?_⟩
  · dsimp only
    rw [h.rest]
  · unfold tables version
    dsimp only
    rw [List.length_append, List.length_singleton, List.getElem?_cons_succ, List.getElem?_map]
    exact congrArg (Option.map _) hlast
  · by_cases hij : i = j
    · subst hij
      cases (calls_withWork_self _ hcall).symm.trans hc
      exact ⟨x.version, hbegan, rfl, hlists,
        ⟨current, target, tables_mono hgrown hcurrent, htarget, hlast, rfl⟩, rfl⟩
    · exact (h.calls j c ((calls_withWork_of_ne x _ hij).symm.trans hc)).mono hgrown
  · dsimp only at hw
    rw [List.getElem?_append] at hw
    split at hw
    · obtain ⟨hlists', htable, began', summary, notices, hw'⟩ := h.swaps v w hw
      refine ⟨hlists', htable, began', summary, notices, ?_⟩
      have hne : i ≠ w.call := by
        rintro rfl
        cases hcall.symm.trans hw'
      exact (calls_withWork_of_ne x _ hne).trans hw'
    · next hv =>
      rw [List.getElem?_singleton] at hw
      split at hw
      · next hzero =>
        cases hw
        have hversion : v = x.version := by unfold version; omega
        subst hversion
        exact ⟨hlists, (backends_nextTable current target).trans htarget, began, _, _,
          calls_withWork_self _ hcall⟩
      · cases hw

theorem coherent_step (x y : Sharing) (hstep : Step x y) (h : Coherent r x) : Coherent r y := by
  have hversion {v : Nat} {t : HostTable Entry} (ht : (x.tables r)[v]? = some t) : v ≤ x.version := by
    have hlt := (List.getElem?_eq_some_iff.mp ht).1
    unfold tables at hlt
    rw [List.length_cons, List.length_map] at hlt
    exact Nat.le_of_lt_succ hlt
  cases hstep with
  | still => exact h
  | calledReload s => exact h.call _ fun _ => Nat.le_refl _
  | calledLookUp u => exact h.call _ fun _ => Nat.le_refl _
  | skipped i began s hcall hlists =>
    have hbegan : began ≤ x.version := h.calls i _ hcall
    refine h.withWork hcall nofun ?_ x.registry.nextStamp
    exact ⟨hbegan, Nat.le_refl _, hlists, rfl⟩
  | aimed i began s hcall hlists =>
    have hbegan : began ≤ x.version := h.calls i _ hcall
    refine h.withWork hcall nofun ?_ _
    exact ⟨hbegan, hlists, stampedTable_backends s _⟩
  | loaded i began s target hcall =>
    obtain ⟨hbegan, hlists, htarget⟩ := h.calls i _ hcall
    refine h.withWork hcall nofun ?_ x.registry.nextStamp
    exact ⟨hbegan, hlists, htarget, h.inForce⟩
  | computed i began s target version current hcall =>
    obtain ⟨hbegan, hlists, htarget, hcurrent⟩ := h.calls i _ hcall
    refine h.withWork hcall nofun ?_ x.registry.nextStamp
    exact ⟨hbegan, hlists, htarget, current, hcurrent, rfl, rfl⟩
  | swapped i began s target next summary hcall => exact h.swapped hcall
  | missed i began s target version next summary hcall =>
    obtain ⟨hbegan, hlists, htarget, current, hcurrent, -⟩ := h.calls i _ hcall
    refine h.withWork hcall nofun ?_ x.registry.nextStamp
    exact ⟨Nat.le_trans hbegan (hversion hcurrent), hlists, htarget⟩
  | looked i began u hcall =>
    have hbegan : began ≤ x.version := h.calls i _ hcall
    refine h.withWork hcall nofun ?_ x.registry.nextStamp
    exact ⟨hbegan, h.inForce⟩
  | answered i began u version table hcall =>
    obtain ⟨hbegan, htable⟩ := h.calls i _ hcall
    refine h.withWork hcall nofun ?_ x.registry.nextStamp
    refine ⟨hbegan, hversion htable, Nat.le_refl _, table, htable, ?_⟩
    rw [h.rest]
    rfl

theorem coherent_run (r : Registry) (moves : List Move) : Coherent r ((start r).run moves) :=
  run_induction coherent_step (coherent_start r) moves

/-! ## One after the other -/

/-- The table of a version says what reloads made one by one would have left. -/
theorem Coherent.backends_table (h : Coherent r x) {version : Nat} {t : HostTable Entry}
    (ht : (x.tables r)[version]? = some t) :
    t.backends = (x.sequential r version).hosts.backends := by
  unfold sequential
  rw [backends_reloadAll]
  cases version with
  | zero =>
    cases ht
    rfl
  | succ v =>
    unfold tables at ht
    rw [List.getElem?_cons_succ, List.getElem?_map] at ht
    obtain ⟨w, hw, rfl⟩ := Option.map_eq_some_iff.mp ht
    obtain ⟨hlists, htable, -⟩ := h.swaps v w hw
    rw [List.take_add_one, hw, Option.toList_some, List.map_append, List.map_singleton,
      settledTable_append_singleton, if_pos hlists, htable]

/-- How a reload ends, and what it reports, depends only on what the tables say. -/
theorem reload_of_backends (r : Registry) {s : Source} (hlists : listsBackends s = true)
    {current target : HostTable Entry} (hcurrent : current.backends = r.hosts.backends)
    (htarget : target.backends = configuredTable s) :
    (r.reload s).outcome = .applied (changes current target) ∧
      (r.reload s).notices = configuredNotices s ++ (changes current target).notices := by
  have hchanges : changes current target = changes r.hosts (stampedTable s r.nextStamp) := by
    rw [changes_eq_backends, changes_eq_backends r.hosts, hcurrent, htarget, stampedTable_backends]
  rw [hchanges]
  unfold Registry.reload
  rw [if_pos hlists]
  exact ⟨rfl, rfl⟩

theorem backend_answers (h : Coherent r x) {u : Url} {version : Nat} {answer : Option Entry}
    (hanswer : Answers r x u version answer) :
    answer.map (·.backend) = ((x.sequential r version).resolve? u).map (·.backend) := by
  obtain ⟨table, htable, rfl⟩ := hanswer
  have hfallback : (x.sequential r version).fallback? = r.fallback? := fallback?_reloadAll r _
  rw [backend_resolve?, backend_resolve?, hfallback, ← h.backends_table htable]
  rfl

/-- Shared use of a registry comes to the same as calls made one by one. A reload that was applied
    takes its place where it replaced the table, a look-up where it read the table, both between
    their begin and their end. -/
structure Linearized (r : Registry) (x : Sharing) : Prop where
  /-- Every table published says what the settings of a single reload list, and that reload has
      published no other. -/
  published : ∀ (v : Nat) (w : Swap), x.swaps[v]? = some w →
    listsBackends w.source = true ∧ w.table.backends = configuredTable w.source ∧
      ∃ began summary notices, x.calls[w.call]? =
        some ⟨began, .reload w.source (.returned (.applied summary) notices (v + 1))⟩
  /-- The table in force is the one published last. -/
  inForce : x.registry.hosts = (x.swaps.getLast?.map (·.table)).getD r.hosts
  /-- Nothing else has changed. -/
  rest : x.registry.allowAll = r.allowAll ∧ x.registry.commonSecret = r.commonSecret ∧
    x.registry.shared = r.shared
  applied : ∀ (i began : Nat) (s : Source) (summary : Summary) (notices : List Notice)
      (ended : Nat),
    x.calls[i]? = some ⟨began, .reload s (.returned (.applied summary) notices ended)⟩ →
    ∃ v, began ≤ v ∧ ended = v + 1 ∧ Replaces r x i s v summary ∧
      ((x.sequential r v).reload s).outcome = .applied summary ∧
      ((x.sequential r v).reload s).notices = notices
  skipped : ∀ (i began : Nat) (s : Source) (notices : List Notice) (ended : Nat),
    x.calls[i]? = some ⟨began, .reload s (.returned .skipped notices ended)⟩ →
    began ≤ ended ∧ ended ≤ x.version ∧ ∀ q : Registry, q.reload s = ⟨q, .skipped, notices⟩
  answered : ∀ (i began : Nat) (u : Url) (v : Nat) (answer : Option Entry) (ended : Nat),
    x.calls[i]? = some ⟨began, .lookUp u (.returned v answer ended)⟩ →
    began ≤ v ∧ v ≤ ended ∧ ended ≤ x.version ∧ Answers r x u v answer ∧
      answer.map (·.backend) = ((x.sequential r v).resolve? u).map (·.backend)

theorem Coherent.inForce_eq (h : Coherent r x) :
    x.registry.hosts = (x.swaps.getLast?.map (·.table)).getD r.hosts := by
  have hlast : (x.tables r)[x.version]? = (x.tables r).getLast? := by
    unfold tables version
    rw [List.getLast?_eq_getElem?, List.length_cons, List.length_map, Nat.add_sub_cancel]
  have htable := hlast.symm.trans h.inForce
  unfold tables at htable
  rw [List.getLast?_cons, List.getLast?_map] at htable
  exact (Option.some.inj htable).symm

end

/-- **Shared use comes to calls made one by one**, in every run. -/
theorem calls_linearized (r : Registry) (moves : List Move) :
    Linearized r ((start r).run moves) := by
  have h : Coherent r ((start r).run moves) := coherent_run r moves
  refine ⟨h.swaps, h.inForce_eq, ?_, ?_, ?_, ?_⟩
  · rw [h.rest]
    exact ⟨rfl, rfl, rfl⟩
  · intro i began s summary notices ended hcall
    obtain ⟨v, hbegan, hended, hlists, hreplaces, hnotices⟩ := h.calls i _ hcall
    obtain ⟨current, target, hcurrent, htarget, -, hsummary⟩ := id hreplaces
    obtain ⟨houtcome, hreported⟩ :=
      reload_of_backends (sequential r _ v) hlists (h.backends_table hcurrent) htarget
    rw [hnotices, hsummary]
    exact ⟨v, hbegan, hended, hsummary ▸ hreplaces, houtcome, hreported⟩
  · intro i began s notices ended hcall
    obtain ⟨hbegan, hended, hlists, rfl⟩ := h.calls i _ hcall
    refine ⟨hbegan, hended, fun q => ?_⟩
    unfold Registry.reload
    rw [hlists]
    rfl
  · intro i began u v answer ended hcall
    obtain ⟨hbegan, hheld, hended, hanswer⟩ := h.calls i _ hcall
    exact ⟨hbegan, hheld, hended, hanswer, backend_answers h hanswer⟩

/-- A reload and a look-up have read the table when another reload replaces it. The reload comes too
    late, reads and computes once more, and replaces the table of the other. -/
def contended : Sharing := (start (Registry.ofSource threeTenants).1).run
  [.reload threeTenants, .reload twoTenants, .lookUp (urlOnH "/c/"), .advance 0, .advance 0,
    .advance 1, .advance 1, .advance 2, .advance 1, .advance 1, .advance 0, .advance 0, .advance 0,
    .advance 0, .advance 0, .advance 2]

example : contended.swaps.map (·.call) = [1, 0] ∧
    contended.registry.hosts.backends = configuredTable threeTenants := by
  decide +kernel

/-! ## Undisturbed calls -/

theorem step_advance_reload {x : Sharing} {i began : Nat} {s : Source} {stage : Reloading}
    (hcall : x.calls[i]? = some ⟨began, .reload s stage⟩) :
    x.step (.advance i) = x.advanceReload i s stage := by
  unfold step
  dsimp only
  rw [hcall]

theorem step_advance_lookUp {x : Sharing} {i began : Nat} {u : Url} {stage : Asking}
    (hcall : x.calls[i]? = some ⟨began, .lookUp u stage⟩) :
    x.step (.advance i) = x.advanceLookUp i u stage := by
  unfold step
  dsimp only
  rw [hcall]

/-- From its target on, a reload that nobody disturbs takes three steps. -/
theorem reload_aimed_alone {x : Sharing} {i began : Nat} {s : Source} {target : HostTable Entry}
    (hcall : x.calls[i]? = some ⟨began, .reload s (.aimed target)⟩) :
    let y := x.run (List.replicate 3 (.advance i))
    let summary := changes x.registry.hosts target
    y.registry = { x.registry with hosts := nextTable x.registry.hosts target } ∧
      y.calls[i]? = some ⟨began, .reload s (.returned (.applied summary)
        (configuredNotices s ++ summary.notices) (x.version + 1))⟩ := by
  have hbased := calls_withWork_self (.reload s (.based target x.version x.registry.hosts)) hcall
  have hmerged := calls_withWork_self (.reload s (.merged target x.version
    (nextTable x.registry.hosts target) (changes x.registry.hosts target))) hbased
  unfold run
  dsimp only [List.replicate, List.foldl]
  rw [step_advance_reload hcall, advanceReload, step_advance_reload hbased, advanceReload,
    step_advance_reload hmerged, advanceReload, version_withWork, version_withWork, if_pos rfl]
  exact ⟨rfl, calls_withWork_self _ hmerged⟩

/-- A reload that nobody disturbs does what a reload does, in at most four steps. -/
theorem reload_alone (x : Sharing) (s : Source) :
    let y := (x.step (.reload s)).run (List.replicate 4 (.advance x.calls.length))
    y.registry = (x.registry.reload s).registry ∧
      ∃ ended, y.calls[x.calls.length]? = some ⟨x.version, .reload s
        (.returned (x.registry.reload s).outcome (x.registry.reload s).notices ended)⟩ := by
  have hcalled : (x.step (.reload s)).calls[x.calls.length]? =
      some ⟨x.version, .reload s .called⟩ := List.getElem?_concat_length
  unfold run Registry.reload
  rw [List.replicate_succ, List.foldl_cons, step_advance_reload hcalled, advanceReload]
  cases listsBackends s with
  | false =>
    rw [if_neg Bool.false_ne_true, if_neg Bool.false_ne_true]
    have hreturned := calls_withWork_self
      (.reload s (.returned .skipped [.keptForLackOfBackends] (x.step (.reload s)).version)) hcalled
    -- The other steps leave everything as it is.
    dsimp only [List.replicate, List.foldl]
    rw [step_advance_reload hreturned, advanceReload, step_advance_reload hreturned, advanceReload,
      step_advance_reload hreturned, advanceReload]
    exact ⟨rfl, _, hreturned⟩
  | true =>
    rw [if_pos rfl, if_pos rfl]
    let target := stampedTable s x.registry.nextStamp
    let z : Sharing := { (x.step (.reload s)).withWork x.calls.length (.reload s (.aimed target)) with
      registry :=
        { x.registry with nextStamp := x.registry.nextStamp + (placedBackends s).length } }
    have haimed : z.calls[x.calls.length]? = some ⟨x.version, .reload s (.aimed target)⟩ :=
      calls_withWork_self _ hcalled
    obtain ⟨hregistry, hreturned⟩ := reload_aimed_alone haimed
    exact ⟨hregistry, _, hreturned⟩

/-- A look-up that nobody disturbs gives the answer of the registry, in two steps. -/
theorem lookUp_alone (x : Sharing) (u : Url) :
    let y := (x.step (.lookUp u)).run (List.replicate 2 (.advance x.calls.length))
    y.registry = x.registry ∧ y.calls[x.calls.length]? =
      some ⟨x.version, .lookUp u (.returned x.version (x.registry.resolve? u) x.version)⟩ := by
  have hcalled : (x.step (.lookUp u)).calls[x.calls.length]? =
      some ⟨x.version, .lookUp u .called⟩ := List.getElem?_concat_length
  have hheld := calls_withWork_self
    (.lookUp u (.holding (x.step (.lookUp u)).version (x.step (.lookUp u)).registry.hosts)) hcalled
  unfold run
  dsimp only [List.replicate, List.foldl]
  rw [step_advance_lookUp hcalled, advanceLookUp, step_advance_lookUp hheld, advanceLookUp]
  exact ⟨rfl, calls_withWork_self _ hheld⟩

end Sharing

end Switchboard.Tenancy
