import Switchboard.Proofs.Upkeep.Delivery
import Switchboard.Upkeep.Service
/-
  The service at work. A happening is a trigger with a file that is found at it, and one happening
  does what `handled` says (`handle_eq`). By induction whatever happens leaves the registry that the
  triggers leave, each handled with the file found at it (`registry_handleAll`). The relay leaves it
  too if its parties take turns: with nothing under way the moves of a happening take it to where
  nothing is under way again, and to the registry and the file of the service (`Mirrors.run_moves`).
-/
namespace Switchboard.Upkeep

open Switchboard.Settings Switchboard.Tenancy

/-! ## Happenings as triggers -/

/-- The trigger that a happening is. -/
def Happening.trigger : Happening → Trigger
  | .write _ => .fileChanged
  | .hangup => .hangup

/-- The file that is found at a happening: what has just been written, or what stood there before. -/
def Happening.found (file : File) : Happening → File
  | .write content => .bytes content
  | .hangup => file

/-- The triggers of happenings, each with the file that is found at it. -/
def triggersOf (file : File) : List Happening → List (Trigger × File)
  | [] => []
  | h :: rest => (h.trigger, h.found file) :: triggersOf (h.found file) rest

namespace Service

/-- The service after happenings, one after the other. -/
def handleAll (s : Service) : List Happening → Service
  | [] => s
  | h :: rest => (s.handle h).1.handleAll rest

theorem start?_eq_some_iff {r : Registry} {file : File} {s : Service} {notices : List Notice} :
    start? r file = some (s, notices) ↔ file ≠ .missing ∧ s = ⟨r, file⟩ ∧ notices = [.watching] := by
  cases file with
  | missing => exact ⟨nofun, fun h => absurd rfl h.1⟩
  | bytes content =>
    constructor
    · intro h
      cases h
      exact ⟨nofun, rfl, rfl⟩
    · rintro ⟨-, rfl, rfl⟩
      rfl

/-- A happening does what its trigger does with the file that is found. -/
theorem handle_eq (s : Service) (h : Happening) :
    s.handle h = (⟨(handled s.registry h.trigger (h.found s.file)).1, h.found s.file⟩,
      (handled s.registry h.trigger (h.found s.file)).2) := by
  cases h <;> rfl

theorem registry_handleAll (s : Service) (hs : List Happening) :
    (s.handleAll hs).registry = handledAll s.registry (triggersOf s.file hs) := by
  induction hs generalizing s with
  | nil => rfl
  | cons h rest ih => rw [handleAll, ih, handle_eq, triggersOf, handledAll]

end Service

/-! ## The relay in turns -/

/-- The moves of a happening when the parties take turns. -/
def Happening.moves : Happening → List Move
  | .write content => .write content :: Relay.turn .fileChanged
  | .hangup => Relay.turn .hangup

namespace Relay

/-- Nothing is under way in the relay, and it has the registry and the file of the service. -/
structure Mirrors (x : Relay) (s : Service) : Prop where
  waiting : ∀ t, x.senders t = .waiting
  running : x.loop = .running
  queue_eq : x.queue = []
  file_eq : x.file = s.file
  registry_eq : x.registry = s.registry

theorem mirrors_start (r : Registry) (file : File) : (start r file).Mirrors ⟨r, file⟩ where
  waiting _ := rfl
  running := rfl
  queue_eq := rfl
  file_eq := rfl
  registry_eq := rfl

/-- The moves of a trigger take a relay in which nothing is under way to what the trigger leaves. -/
theorem Mirrors.run_turn {x : Relay} {s : Service} (h : x.Mirrors s) (t : Trigger) :
    (x.run (turn t)).Mirrors ⟨(handled s.registry t s.file).1, s.file⟩ := by
  obtain ⟨hregistry, hfile, hsenders, hrunning, hqueue⟩ :=
    run_unbroken x t (h.waiting t) h.running h.queue_eq
  refine ⟨fun u => ?_, hrunning, hqueue, hfile.trans h.file_eq, ?_⟩
  · rw [hsenders, h.waiting]
  · rw [hregistry, h.registry_eq, h.file_eq]

theorem Mirrors.run_happening {x : Relay} {s : Service} (h : x.Mirrors s) (what : Happening) :
    (x.run what.moves).Mirrors (s.handle what).1 := by
  rw [Service.handle_eq]
  cases what with
  | write content =>
    have hwritten : (x.write content).Mirrors ⟨s.registry, .bytes content⟩ :=
      ⟨h.waiting, h.running, h.queue_eq, rfl, h.registry_eq⟩
    exact hwritten.run_turn .fileChanged
  | hangup => exact h.run_turn .hangup

theorem Mirrors.run_moves {x : Relay} {s : Service} (h : x.Mirrors s) (hs : List Happening) :
    (x.run (hs.flatMap Happening.moves)).Mirrors (s.handleAll hs) := by
  induction hs generalizing x s with
  | nil => exact h
  | cons what rest ih =>
    have hrun : x.run ((what :: rest).flatMap Happening.moves) =
        (x.run what.moves).run (rest.flatMap Happening.moves) := List.foldl_append
    rw [hrun]
    exact ih (h.run_happening what)

end Relay

/-! ## The service at work -/

/-- **The service at work.** A service starts with the registry as it is. After that, whatever
    happens leaves the registry that the triggers leave, each handled with the file found at it: the
    one that reloads with the files that got through leave. The relay leaves the same if its parties
    take turns. -/
theorem Service.registry_of_start? {r : Registry} {file : File} {s : Service} {notices : List Notice}
    (hstart : start? r file = some (s, notices)) (hs : List Happening) :
    (s.handleAll hs).registry = handledAll r (triggersOf file hs) ∧
    (s.handleAll hs).registry =
      r.reloadAll ((triggersOf file hs).filterMap fun p => listing? p.2) ∧
    ((Relay.start r file).run (hs.flatMap Happening.moves)).registry =
      (s.handleAll hs).registry := by
  obtain ⟨-, rfl, -⟩ := start?_eq_some_iff.mp hstart
  have hregistry := registry_handleAll ⟨r, file⟩ hs
  exact ⟨hregistry, hregistry.trans (handledAll_eq_reloadAll r _),
    ((Relay.mirrors_start r file).run_moves hs).registry_eq⟩

end Switchboard.Upkeep
