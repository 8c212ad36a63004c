import Switchboard.Proofs.Tenancy.Runs
import Switchboard.Upkeep.Application
/-
  Broken files do not disturb a registry. Between a trigger and the registry a file passes through
  four layers, each with its own way to fail: it is read as UTF-8, parsed, checked for faults, and
  taken over only if it lists backends (`listing?`). One trigger reloads what the file lists or
  leaves the registry as it is (`registry_handled`), so by induction a run of triggers is a run of
  reloads with the files that got through (`handledAll_eq_reloadAll`). It makes no difference whether
  each file is applied at its trigger or all that was sent is applied by the loop later
  (`registry_run`).
-/
namespace Switchboard.Upkeep

open Switchboard.Settings Switchboard.Tenancy

/-! ## What gets through -/

/-- The settings that a file brings to the registry: the file is there and in UTF-8, the text is a
    document without faults, and the document lists backends. -/
def listing? : File → Option Source
  | .missing => none
  | .bytes content => do
    let text ← String.fromUTF8? content
    let s ← Snapshot.ofText? text
    if s.faults = [] ∧ listsBackends s.source = true then some s.source else none

/-- What is sent to the loop at a trigger. -/
def sent? (p : Trigger × File) : Option Snapshot := (p.1.publish p.2 true).sent

theorem sent?_eq_load (t : Trigger) (file : File) : sent? (t, file) = file.load.toOption := by
  unfold sent? Trigger.publish publish
  cases file.load <;> rfl

/-- Reading and checking let a document through, and of these the registry takes those that list
    backends. -/
theorem listing?_eq_filter (file : File) :
    listing? file = (file.load.toOption.map Snapshot.source).filter listsBackends := by
  cases file with
  | missing => rfl
  | bytes content =>
    simp only [listing?, File.load, Option.bind_eq_bind]
    cases String.fromUTF8? content with
    | none => rfl
    | some text =>
      simp only [Snapshot.load, Option.bind_some]
      cases Snapshot.ofText? text with
      | none => rfl
      | some s =>
        by_cases hfaults : s.faults = []
        · simp [hfaults, Option.filter, Except.toOption]
        · simp [hfaults, Except.toOption]

theorem listing?_eq_filter_sent? (p : Trigger × File) :
    listing? p.2 = ((sent? p).map Snapshot.source).filter listsBackends := by
  rw [listing?_eq_filter, sent?_eq_load p.1 p.2]

/-! ## One trigger -/

/-- A trigger applies what the file holds, if it loads. -/
theorem registry_handled_eq_applied (r : Registry) (t : Trigger) (file : File) :
    (handled r t file).1 = match file.load.toOption with
      | some s => (applied r s).1
      | none => r := by
  unfold handled Trigger.publish publish
  cases file.load <;> rfl

/-- A trigger reloads what the file lists, and otherwise leaves the registry as it is. -/
theorem registry_handled (r : Registry) (t : Trigger) (file : File) :
    (handled r t file).1 = match listing? file with
      | some s => (r.reload s).registry
      | none => r := by
  rw [registry_handled_eq_applied, listing?_eq_filter]
  cases file.load.toOption with
  | none => rfl
  | some s =>
    cases hlists : listsBackends s.source with
    | true => simp [applied, Option.filter, hlists]
    | false => simp [applied, Option.filter, hlists, reload_of_not_listsBackends r hlists]

/-! ## Runs of triggers -/

/-- The registry after triggers, one handled after the other. -/
def handledAll (r : Registry) : List (Trigger × File) → Registry
  | [] => r
  | (t, file) :: rest => handledAll (handled r t file).1 rest

theorem handledAll_eq_reloadAll (r : Registry) (ts : List (Trigger × File)) :
    handledAll r ts = r.reloadAll (ts.filterMap fun p => listing? p.2) := by
  induction ts generalizing r with
  | nil => rfl
  | cons p rest ih =>
    obtain ⟨t, file⟩ := p
    rw [handledAll, ih, registry_handled, List.filterMap_cons]
    cases listing? file <;> rfl

/-! ## The loop -/

theorem registry_appliedAll (r : Registry) (sent : List Snapshot) :
    (appliedAll r sent).1 = r.reloadAll (sent.map Snapshot.source) := by
  induction sent generalizing r with
  | nil => rfl
  | cons s rest ih => exact ih _

/-- Reloads without listed backends can be left out of a run. -/
theorem reloadAll_filter (r : Registry) (run : List Source) :
    r.reloadAll (run.filter listsBackends) = r.reloadAll run := by
  induction run generalizing r with
  | nil => rfl
  | cons s rest ih =>
    rw [Registry.reloadAll]
    cases hlists : listsBackends s with
    | true => rw [List.filter_cons_of_pos hlists, Registry.reloadAll, ih]
    | false =>
      rw [List.filter_cons_of_neg (by rw [hlists]; decide), ih, reload_of_not_listsBackends r hlists]

/-- The loop, run over what the triggers have sent, leaves the registry that the triggers leave
    one by one. -/
theorem registry_run (r : Registry) (ts : List (Trigger × File)) :
    (run r (ts.filterMap sent?)).1 = handledAll r ts := by
  have hrun (sent : List Snapshot) : (run r sent).1 = (appliedAll r sent).1 := rfl
  have hlisting : (ts.filterMap fun p => listing? p.2) =
      ((ts.filterMap sent?).map Snapshot.source).filter listsBackends := by
    simp only [listing?_eq_filter_sent?, List.map_filterMap, List.filter_filterMap]
  rw [hrun, registry_appliedAll, handledAll_eq_reloadAll, hlisting, reloadAll_filter]

/-! ## Broken files -/

/-- Triggers, one handled after the other, leave the registry that reloads with the files that got
    through leave, and so does the loop over what has been sent. A trigger with a file that does not
    get through leaves the registry as it is. -/
theorem broken_files_ignored :
    (∀ r ts, handledAll r ts = r.reloadAll (ts.filterMap fun p => listing? p.2)) ∧
    (∀ r ts, (run r (ts.filterMap sent?)).1 = handledAll r ts) ∧
    ∀ r t file, listing? file = none → (handled r t file).1 = r := by
  refine ⟨handledAll_eq_reloadAll, registry_run, fun r t file h => ?_⟩
  rw [registry_handled, h]

/-- A file that lists one backend. -/
def listingFile : File :=
  .bytes "[backend]\nbackends = \"a\"\n[a]\nurl = \"https://h/\"\nsecret = \"s\"".toUTF8

/-- Settings with a backend for another host, which is listed if the ids name it. -/
def otherText (ids : String) : String :=
  "[backend]\nbackends = \"" ++ ids ++ "\"\n[b]\nurl = \"https://g/\"\nsecret = \"s\""

/-- A file for each way to fail: no file, no UTF-8, no document, a fault, and no listed backends. But
    for that one failure, every file that is there would be taken over. -/
def brokenFiles : List File :=
  [.missing, .bytes ((otherText "b").toUTF8.push 255), .bytes (otherText "b" ++ "\n[").toUTF8,
    .bytes ("stray = 1\n" ++ otherText "b").toUTF8, .bytes (otherText " ").toUTF8]

/-- A registry that started without settings, after a hangup with the file that lists a backend. -/
def listingRegistry : Registry :=
  (handled (Registry.ofSource (Snapshot.mk []).source).1 .hangup listingFile).1

theorem broken_files_ignored_each :
    listingRegistry.hostKeys = ["h"] ∧
    (handled listingRegistry .fileChanged (.bytes (otherText "b").toUTF8)).1.hostKeys = ["g"] ∧
    ∀ file ∈ brokenFiles, listing? file = none ∧
      (handled listingRegistry .fileChanged file).1 = listingRegistry := by
  have hkeys : listingRegistry.hostKeys = ["h"] := by decide +kernel
  have hother : (handled listingRegistry .fileChanged (.bytes (otherText "b").toUTF8)).1.hostKeys =
      ["g"] := by decide +kernel
  have hnone : ∀ file ∈ brokenFiles, listing? file = none := by
    rw [← List.filterMap_eq_nil_iff]
    decide +kernel
  exact ⟨hkeys, hother, fun file hfile =>
    ⟨hnone file hfile, broken_files_ignored.2.2 _ _ _ (hnone file hfile)⟩⟩

end Switchboard.Upkeep
