import Switchboard.Proofs.Upkeep.Triggers
import Switchboard.Upkeep.Relay
/-
  Delivery. Whatever turns the parties of the relay take, the settings that the loop has applied are
  the first of those that were sent, in the order in which they were sent (`delivered_in_order`).

  `Step` tells what a move can do, and `step_cases` that it can do nothing else. The invariant is
  `Orderly`: as long as the loop has its end of the queue, what was sent is what was taken and then
  what is in the queue. A step keeps it (`orderly_step`), so a run keeps it (`orderly_run`). What
  the loop has yet to do once all senders have ended is told by `drained`. Where nothing comes between
  the moves of a trigger, they do what the trigger alone does (`run_unbroken`).
-/
namespace Switchboard.Upkeep

open Switchboard.Settings Switchboard.Tenancy

/-! ## Moves -/

theorem received_publish (t : Trigger) (file : File) (isOpen : Bool) :
    (t.publish file isOpen).received = isOpen := by
  unfold Trigger.publish publish
  cases file.load <;> rfl

theorem sent_publish (t : Trigger) (file : File) (isOpen : Bool) :
    (t.publish file isOpen).sent = if isOpen then file.load.toOption else none := by
  unfold Trigger.publish publish
  cases file.load <;> cases isOpen <;> rfl

namespace Relay

/-- What a move can do. -/
inductive Step (x : Relay) : Relay → Prop
  | still : Step x x
  | written (content : ByteArray) : Step x (x.write content)
  | loaded (t : Trigger) (hwaiting : x.senders t = .waiting) :
    Step x { x.withSender t (.holding x.file x.edition) with
      unnoticed := x.unnoticed && t != .fileChanged }
  | shipped (t : Trigger) (file : File) (edition : Nat) (s : Snapshot)
    (hholding : x.senders t = .holding file edition) (hload : file.load = .ok s)
    (hopen : x.loop ≠ .closed) :
    Step x { x.withSender t .waiting with
      queue := x.queue ++ [s]
      sent := x.sent ++ [⟨t, edition, s⟩] }
  | withheld (t : Trigger) (file : File) (edition : Nat) (next : Sender)
    (hholding : x.senders t = .holding file edition)
    (hnothing : x.loop = .closed ∨ ∀ s, file.load ≠ .ok s)
    (hnext : next = .waiting ∨ next = .ended) : Step x (x.withSender t next)
  | left (t : Trigger) (hwaiting : x.senders t = .waiting) : Step x (x.withSender t .ended)
  | announced : Step x { x with shutdown := true }
  | took (s : Snapshot) (rest : List Snapshot) (hrunning : x.loop = .running)
    (hqueue : x.queue = s :: rest) :
    Step x { x with
      queue := rest
      registry := (applied x.registry s).1
      taken := x.taken ++ [s] }
  | stopped (hrunning : x.loop = .running)
    (hwhy : x.shutdown = true ∨ (x.queue = [] ∧ ∀ t, x.senders t = .ended)) :
    Step x { x with loop := .stopped }
  | closed (hstopped : x.loop = .stopped) : Step x { x with loop := .closed, queue := [] }

theorem isOpen_eq_true_iff {x : Relay} : x.isOpen = true ↔ x.loop ≠ .closed := bne_iff_ne

theorem isOpen_eq_false_iff {x : Relay} : x.isOpen = false ↔ x.loop = .closed := bne_eq_false_iff_eq

theorem isDeserted_eq_true_iff {x : Relay} :
    x.isDeserted = true ↔ ∀ t, x.senders t = .ended := by
  have hended (s : Sender) : s.isEnded = true ↔ s = .ended := by
    cases s <;> simp [Sender.isEnded]
  unfold isDeserted
  rw [Bool.and_eq_true, hended, hended]
  constructor
  · rintro ⟨hwatcher, hhangups⟩ t
    cases t with
    | fileChanged => exact hwatcher
    | hangup => exact hhangups
  · exact fun h => ⟨h _, h _⟩

theorem load_of_waiting {x : Relay} {t : Trigger} (h : x.senders t = .waiting) :
    x.load t = { x.withSender t (.holding x.file x.edition) with
      unnoticed := x.unnoticed && t != .fileChanged } := by
  unfold load
  rw [h]

/-- A sender that has read the file sends what loads, as long as somebody receives it. -/
theorem send_of_holding {x : Relay} {t : Trigger} {file : File} {edition : Nat}
    (hholding : x.senders t = .holding file edition) (hopen : x.loop ≠ .closed) :
    x.send t = { x.withSender t .waiting with
      queue := x.queue ++ file.load.toOption.toList
      sent := x.sent ++ file.load.toOption.toList.map (Shipment.mk t edition) } := by
  have hgoes : t.goesOn true = true := by cases t <;> rfl
  unfold send
  rw [hholding]
  dsimp only
  rw [sent_publish, received_publish, isOpen_eq_true_iff.mpr hopen, hgoes, if_pos rfl, if_pos rfl]

/-- A sender that finds no receiver sends nothing. -/
theorem send_of_closed {x : Relay} {t : Trigger} {file : File} {edition : Nat}
    (hholding : x.senders t = .holding file edition) (hclosed : x.loop = .closed) :
    x.send t = x.withSender t (if t.goesOn false then .waiting else .ended) := by
  unfold send
  rw [hholding]
  dsimp only
  rw [sent_publish, received_publish, isOpen_eq_false_iff.mpr hclosed]
  simp only [Bool.false_eq_true, if_false, Option.toList_none, List.append_nil, List.map_nil]
  rfl

theorem step_send (x : Relay) (t : Trigger) : Step x (x.send t) := by
  cases hsender : x.senders t with
  | waiting =>
    rw [send, hsender]
    exact .still
  | ended =>
    rw [send, hsender]
    exact .still
  | holding file edition =>
    by_cases hclosed : x.loop = .closed
    · rw [send_of_closed hsender hclosed]
      refine .withheld t file edition _ hsender (.inl hclosed) ?_
      split
      · exact .inl rfl
      · exact .inr rfl
    · rw [send_of_holding hsender hclosed]
      cases hload : file.load with
      | error fault =>
        simp only [Except.toOption, Option.toList_none, List.append_nil, List.map_nil]
        refine .withheld t file edition _ hsender (.inr fun s hs => ?_) (.inl rfl)
        cases hload.symm.trans hs
      | ok s => exact .shipped t file edition s hsender hload hclosed

theorem step_take (x : Relay) : Step x x.take := by
  unfold take
  split
  · next s rest hrunning hqueue => exact .took s rest hrunning hqueue
  · next hrunning hqueue =>
    split
    · next hdeserted => exact .stopped hrunning (.inr ⟨hqueue, isDeserted_eq_true_iff.mp hdeserted⟩)
    · exact .still
  · exact .still

/-- A move can do nothing else. -/
theorem step_cases (x : Relay) (m : Move) : Step x (x.step m) := by
  cases m with
  | write content => exact .written content
  | load t =>
    dsimp only [step]
    unfold load
    split
    · next hwaiting => exact .loaded t hwaiting
    · exact .still
  | send t => exact step_send x t
  | leave t =>
    dsimp only [step]
    unfold leave
    split
    · next hwaiting => exact .left t hwaiting
    · exact .still
  | shutDown => exact .announced
  | take => exact step_take x
  | heed =>
    dsimp only [step]
    unfold heed
    split
    · next h => exact .stopped h.1 (.inl h.2)
    · exact .still
  | close =>
    dsimp only [step]
    unfold close
    split
    · next hstopped => exact .closed hstopped
    · exact .still

/-- What every step keeps, every run keeps. -/
theorem run_induction {P : Relay → Prop} (hstep : ∀ x y, Step x y → P x → P y) {x : Relay}
    (hx : P x) (moves : List Move) : P (x.run moves) :=
  moves.foldlRecOn step hx fun y hy m _ => hstep y _ (step_cases y m) hy

/-! ## Order -/

/-- The settings that were sent, the first first. -/
def settings (x : Relay) : List Snapshot := x.sent.map (·.snapshot)

/-- What was sent is what was taken and then what is in the queue; what was taken has been applied. -/
structure Orderly (r : Registry) (x : Relay) : Prop where
  registry_eq : x.registry = (appliedAll r x.taken).1
  taken_prefix : x.taken <+: x.settings
  queued : x.loop ≠ .closed → x.settings = x.taken ++ x.queue
  /-- Without a shutdown the loop only stops when nothing is left and nobody can send. -/
  finished : x.loop ≠ .running → x.shutdown = false →
    x.taken = x.settings ∧ ∀ t, x.senders t = .ended

theorem fst_appliedAll_append (r : Registry) (before after : List Snapshot) :
    (appliedAll r (before ++ after)).1 = (appliedAll (appliedAll r before).1 after).1 := by
  induction before generalizing r with
  | nil => rfl
  | cons s rest ih => exact ih _

theorem orderly_start (r : Registry) (file : File) : Orderly r (start r file) where
  registry_eq := rfl
  taken_prefix := List.prefix_refl _
  queued _ := rfl
  finished hloop := absurd rfl hloop

theorem orderly_step {r : Registry} (x y : Relay) (hstep : Step x y) (h : Orderly r x) :
    Orderly r y := by
  -- A sender that can still send shows that the loop has not finished.
  have hunfinished {t : Trigger} (hsender : x.senders t ≠ .ended) :
      x.loop ≠ .running → x.shutdown = false → False :=
    fun hloop hshut => hsender ((h.finished hloop hshut).2 t)
  cases hstep with
  | still => exact h
  | written content => exact ⟨h.registry_eq, h.taken_prefix, h.queued, h.finished⟩
  | loaded t hwaiting =>
    refine ⟨h.registry_eq, h.taken_prefix, h.queued, fun hloop hshut => ?_⟩
    exact (hunfinished (by rw [hwaiting]; nofun) hloop hshut).elim
  | shipped t file edition s hholding hload hopen =>
    have hsettings : settings { x.withSender t .waiting with
        queue := x.queue ++ [s]
        sent := x.sent ++ [⟨t, edition, s⟩] } = x.settings ++ [s] := List.map_append
    refine ⟨h.registry_eq, ?_, fun _ => ?_, fun hloop hshut => ?_⟩
    · rw [hsettings]
      exact h.taken_prefix.trans (List.prefix_append _ _)
    · rw [hsettings, h.queued hopen, List.append_assoc]
      rfl
    · exact (hunfinished (by rw [hholding]; nofun) hloop hshut).elim
  | withheld t file edition next hholding hnothing hnext =>
    refine ⟨h.registry_eq, h.taken_prefix, h.queued, fun hloop hshut => ?_⟩
    exact (hunfinished (by rw [hholding]; nofun) hloop hshut).elim
  | left t hwaiting =>
    refine ⟨h.registry_eq, h.taken_prefix, h.queued, fun hloop hshut => ?_⟩
    exact (hunfinished (by rw [hwaiting]; nofun) hloop hshut).elim
  | announced => exact ⟨h.registry_eq, h.taken_prefix, h.queued, nofun⟩
  | took s rest hrunning hqueue =>
    have hopen : x.loop ≠ .closed := by rw [hrunning]; nofun
    have hsettings : x.settings = (x.taken ++ [s]) ++ rest := by
      rw [h.queued hopen, hqueue, List.append_cons]
    refine ⟨?_, ⟨rest, hsettings.symm⟩, fun _ => hsettings, fun hloop => absurd hrunning hloop⟩
    dsimp only
    rw [fst_appliedAll_append, ← h.registry_eq]
    rfl
  | stopped hrunning hwhy =>
    have hopen : x.loop ≠ .closed := by rw [hrunning]; nofun
    refine ⟨h.registry_eq, h.taken_prefix, fun _ => h.queued hopen, fun _ hshut => ?_⟩
    rcases hwhy with hannounced | ⟨hqueue, hended⟩
    · cases hshut.symm.trans hannounced
    · refine ⟨?_, hended⟩
      have hsettings := h.queued hopen
      rw [hqueue, List.append_nil] at hsettings
      exact hsettings.symm
  | closed hstopped =>
    refine ⟨h.registry_eq, h.taken_prefix, fun hopen => absurd rfl hopen, fun _ hshut => ?_⟩
    exact h.finished (by rw [hstopped]; nofun) hshut

theorem orderly_run (r : Registry) (file : File) (moves : List Move) :
    Orderly r ((start r file).run moves) :=
  run_induction orderly_step (orderly_start r file) moves

/-! ## The end of the loop -/

/-- A loop that has stopped leaves the registry alone. -/
theorem stopped_run (x : Relay) (h : x.loop ≠ .running) (moves : List Move) :
    (x.run moves).loop ≠ .running ∧ (x.run moves).registry = x.registry ∧
      (x.run moves).taken = x.taken := by
  refine run_induction (P := fun y => y.loop ≠ .running ∧ y.registry = x.registry ∧
    y.taken = x.taken) ?_ ⟨h, rfl, rfl⟩ moves
  rintro y z hstep ⟨hloop, hregistry, htaken⟩
  cases hstep with
  | took s rest hrunning hqueue => exact absurd hrunning hloop
  | stopped hrunning hwhy => exact absurd hrunning hloop
  | closed hstopped => exact ⟨nofun, hregistry, htaken⟩
  | _ => exact ⟨hloop, hregistry, htaken⟩

/-- The loop takes the first settings of the queue. -/
theorem take_of_cons {x : Relay} {s : Snapshot} {rest : List Snapshot} (hrunning : x.loop = .running)
    (hqueue : x.queue = s :: rest) :
    x.take = { x with
      queue := rest
      registry := (applied x.registry s).1
      taken := x.taken ++ [s] } := by
  unfold take
  rw [hrunning, hqueue]

/-- Without settings in the queue the loop takes nothing, and goes on as long as a sender waits. -/
theorem take_of_waiting {x : Relay} {t : Trigger} (hqueue : x.queue = [])
    (hwaiting : x.senders t = .waiting) : x.take = x := by
  have hdeserted : x.isDeserted ≠ true := fun h => by
    cases hwaiting.symm.trans (isDeserted_eq_true_iff.mp h t)
  unfold take
  rw [hqueue]
  split
  · next heq => cases heq
  · exact if_neg hdeserted
  · rfl

/-- Once all senders have ended, the loop applies what is in the queue and stops. -/
theorem drained (x : Relay) (hrunning : x.loop = .running) (hended : ∀ t, x.senders t = .ended) :
    let y := x.run (List.replicate (x.queue.length + 1) .take)
    y.loop = .stopped ∧ y.registry = (appliedAll x.registry x.queue).1 := by
  -- Each take makes another relay with a shorter queue.
  induction hqueue : x.queue generalizing x with
  | nil =>
    have htake : x.take = { x with loop := .stopped } := by
      unfold take
      rw [hrunning, hqueue]
      exact if_pos (isDeserted_eq_true_iff.mpr hended)
    change x.take.loop = .stopped ∧ x.take.registry = _
    rw [htake]
    exact ⟨rfl, rfl⟩
  | cons s rest ih =>
    have htake := take_of_cons hrunning hqueue
    have hrest := ih x.take (by rw [htake]; exact hrunning) (by rw [htake]; exact hended)
      (by rw [htake])
    have hregistry : x.take.registry = (applied x.registry s).1 := by rw [htake]
    rw [hregistry] at hrest
    exact hrest

/-- A sender that reads and sends at once waits again, and what loads is in the queue. -/
theorem run_load_send (x : Relay) (t : Trigger) (hwaiting : x.senders t = .waiting)
    (hopen : x.loop ≠ .closed) :
    let y := x.run [.load t, .send t]
    y.senders = x.senders ∧ y.queue = x.queue ++ x.file.load.toOption.toList ∧
      y.loop = x.loop ∧ y.file = x.file ∧ y.registry = x.registry := by
  intro y
  have hload := load_of_waiting hwaiting
  have hholding : (x.load t).senders t = .holding x.file x.edition := by
    rw [hload]
    exact if_pos rfl
  have hsend := send_of_holding hholding (by rw [hload]; exact hopen)
  have hy : y = (x.load t).send t := rfl
  rw [hy, hsend, hload]
  refine ⟨?_, rfl, rfl, rfl, rfl⟩
  funext u
  by_cases hu : u = t
  · rw [hu, hwaiting]
    exact if_pos rfl
  · exact (if_neg hu).trans (if_neg hu)

/-- The moves of a trigger that nothing comes between. -/
def turn (t : Trigger) : List Move := [.load t, .send t, .take]

/-- A trigger whose moves nothing comes between does what `handled` says, and leaves the parties where
    they were. -/
theorem run_unbroken (x : Relay) (t : Trigger) (hwaiting : x.senders t = .waiting)
    (hrunning : x.loop = .running) (hqueue : x.queue = []) :
    let y := x.run (turn t)
    y.registry = (handled x.registry t x.file).1 ∧ y.file = x.file ∧ y.senders = x.senders ∧
      y.loop = .running ∧ y.queue = [] := by
  intro y
  obtain ⟨hsenders, hqueued, hloop, hfile, hregistry⟩ :=
    run_load_send x t hwaiting (by rw [hrunning]; nofun)
  have hy : y = (x.run [.load t, .send t]).take := rfl
  rw [hqueue, List.nil_append] at hqueued
  rw [hrunning] at hloop
  rw [hy, registry_handled_eq_applied]
  cases hload : x.file.load.toOption with
  | none =>
    rw [hload] at hqueued
    rw [take_of_waiting hqueued (by rw [hsenders]; exact hwaiting)]
    exact ⟨hregistry, hfile, hsenders, hloop, hqueued⟩
  | some s =>
    rw [hload] at hqueued
    rw [take_of_cons hloop hqueued, hregistry]
    exact ⟨rfl, hfile, hsenders, hloop, rfl⟩

/-- **Delivery in order.** At any time of any run the settings that were applied are the first of
    those that were sent, and the registry is what reloads with them, one after the other, leave of
    it. What was sent and not taken is in the queue until the loop drops it. The loop stops before
    all has been applied only after a shutdown; and once it has stopped, nothing changes the registry
    any more. When all senders have ended the loop can go on to its end, and leaves the registry that
    all that was sent leaves. -/
theorem delivered_in_order (r : Registry) (file : File) (moves : List Move) :
    let x := (start r file).run moves
    x.taken <+: x.settings ∧ x.registry = r.reloadAll (x.taken.map Snapshot.source) ∧
      (x.loop ≠ .closed → x.settings = x.taken ++ x.queue) ∧
      (x.loop ≠ .running → x.shutdown = false →
        x.taken = x.settings ∧ ∀ t, x.senders t = .ended) ∧
      (x.loop ≠ .running → ∀ more,
        (x.run more).registry = x.registry ∧ (x.run more).taken = x.taken) ∧
      (x.loop = .running → (∀ t, x.senders t = .ended) →
        let y := x.run (List.replicate (x.queue.length + 1) .take)
        y.loop = .stopped ∧ y.registry = (Upkeep.run r x.settings).1) := by
  intro x
  have h : Orderly r x := orderly_run r file moves
  refine ⟨h.taken_prefix, ?_, h.queued, h.finished, fun hloop more => ?_, fun hrunning hended => ?_⟩
  · rw [h.registry_eq, registry_appliedAll]
  · exact (stopped_run x hloop more).2
  · have hopen : x.loop ≠ .closed := by rw [hrunning]; nofun
    have hrun : (Upkeep.run r x.settings).1 = (appliedAll x.registry x.queue).1 := by
      rw [h.registry_eq, ← fst_appliedAll_append, ← h.queued hopen]
      rfl
    rw [hrun]
    exact drained x hrunning hended

/-- Both senders read the file and send, in turns, and end; then the loop takes what it can. -/
def inTurns : List Move :=
  [.load .hangup, .load .fileChanged, .send .fileChanged, .take, .send .hangup, .leave .hangup,
    .leave .fileChanged, .take, .take]

theorem delivered_in_order_inTurns :
    let x := (start (Registry.ofSource (Snapshot.mk []).source).1 listingFile).run inTurns
    x.loop = .stopped ∧ x.shutdown = false ∧ x.taken = x.settings ∧ x.taken.length = 2 ∧
      x.registry.hostKeys = ["h"] ∧
      (x.run [.write ⟨#[]⟩, .load .fileChanged, .take]).registry = x.registry := by
  intro x
  have hloop : x.loop = .stopped := by decide +kernel
  have hshut : x.shutdown = false := by decide +kernel
  obtain ⟨-, -, -, hfinished, hstopped, -⟩ :=
    delivered_in_order (Registry.ofSource (Snapshot.mk []).source).1 listingFile inTurns
  have hended : x.loop ≠ .running := by rw [hloop]; nofun
  exact ⟨hloop, hshut, (hfinished hended hshut).1, by decide +kernel, by decide +kernel,
    (hstopped hended _).1⟩

end Relay

end Switchboard.Upkeep
