import Switchboard.Proofs.Upkeep.Delivery
import Switchboard.Upkeep.Hangups
/-
  Hangups. There are five ways in which a file can be found, one of which gives settings (`Holds`).
  Whether the receiver is there is answered without regard to them, in two different places
  (`publish_of_holds`), so a run of hangups goes on through files that do not load, and ends at the
  first hangup without a receiver, whatever the file is then (`forward_of_open`,
  `forward_of_closed`).

  In the relay hangups are handled between the moves of the other parties. `Listens` says what a move
  does to the listener for hangups, from which by induction the listener, in any run, has sent what
  `forward` sends of the hangups that it has handled (`forwarded_run`), and has ended if and only if
  `forward` has (`ended_run`).
-/
namespace Switchboard.Upkeep

open Switchboard.Settings Switchboard.Tenancy

/-! ## Files -/

/-- What may be found in the place of a file: nothing, no text, no document, a document with faults,
    or settings. -/
inductive Holds : File → Option Snapshot → Prop
  | missing : Holds .missing none
  | notText {content : ByteArray} (htext : String.fromUTF8? content = none) :
    Holds (.bytes content) none
  | noDocument {content : ByteArray} {text : String}
    (htext : String.fromUTF8? content = some text) (hread : Snapshot.ofText? text = none) :
    Holds (.bytes content) none
  | faulty {content : ByteArray} {text : String} {s : Snapshot}
    (htext : String.fromUTF8? content = some text) (hread : Snapshot.ofText? text = some s)
    (hfaults : s.faults ≠ []) : Holds (.bytes content) none
  | sound {content : ByteArray} {text : String} {s : Snapshot}
    (htext : String.fromUTF8? content = some text) (hread : Snapshot.ofText? text = some s)
    (hfaults : s.faults = []) : Holds (.bytes content) (some s)

theorem holds_load (file : File) : Holds file file.load.toOption := by
  cases file with
  | missing => exact .missing
  | bytes content =>
    unfold File.load
    dsimp only
    cases htext : String.fromUTF8? content with
    | none => exact .notText htext
    | some text =>
      unfold Snapshot.load
      dsimp only
      cases hread : Snapshot.ofText? text with
      | none => exact .noDocument htext hread
      | some s =>
        dsimp only
        by_cases hfaults : s.faults = []
        · rw [if_pos (List.isEmpty_iff.mpr hfaults)]
          exact .sound htext hread hfaults
        · rw [if_neg fun h => hfaults (List.isEmpty_iff.mp h)]
          exact .faulty htext hread hfaults

/-- Every file is found in one of these ways, and this settles what is loaded from it. -/
theorem holds_iff {file : File} {o : Option Snapshot} : Holds file o ↔ file.load.toOption = o := by
  constructor
  · intro h
    cases h with
    | missing => rfl
    | notText htext => simp only [File.load, htext, Except.toOption]
    | noDocument htext hread => simp only [File.load, htext, Snapshot.load, hread, Except.toOption]
    | faulty htext hread hfaults =>
      simp only [File.load, htext, Snapshot.load, hread, List.isEmpty_iff, if_neg hfaults,
        Except.toOption]
    | sound htext hread hfaults =>
      simp only [File.load, htext, Snapshot.load, hread, List.isEmpty_iff, if_pos hfaults,
        Except.toOption]
  · rintro rfl
    exact holds_load file

/-- Whatever is found, the answer is whether the receiver is there; and what is found is sent if it
    is settings and the receiver is there. -/
theorem publish_of_holds {file : File} {o : Option Snapshot} (h : Holds file o) (isOpen : Bool) :
    (publish file isOpen).received = isOpen ∧
      (publish file isOpen).sent = if isOpen then o else none := by
  have hload : file.load.toOption = o := holds_iff.mp h
  rw [← hload]
  exact ⟨received_publish .hangup file isOpen, sent_publish .hangup file isOpen⟩

/-! ## Runs of hangups -/

/-- The settings that are loaded at a hangup. -/
def Hangup.settings? (h : Hangup) : Option Snapshot := h.file.load.toOption

/-- The notices of a hangup: that it was received, and if so, that the file did not load. -/
def Hangup.notices (h : Hangup) : List Notice :=
  .hangupReceived :: if h.settings?.isSome then [] else [.loadFailed]

theorem publish_hangup (h : Hangup) : Trigger.hangup.publish h.file h.isOpen =
    ⟨if h.isOpen then h.settings? else none, h.isOpen, h.notices⟩ := by
  unfold Trigger.publish publish Hangup.notices Hangup.settings?
  cases h.file.load with
  | ok s => rfl
  | error fault => cases h.isOpen <;> rfl

theorem forward_cons_of_open {h : Hangup} (hopen : h.isOpen = true) (rest : List Hangup) :
    forward (h :: rest) = ⟨h.settings?.toList ++ (forward rest).sent,
      h.notices ++ (forward rest).notices, (forward rest).goesOn⟩ := by
  rw [forward, publish_hangup, hopen]
  rfl

theorem forward_cons_of_closed {h : Hangup} (hclosed : h.isOpen = false) (rest : List Hangup) :
    forward (h :: rest) = ⟨[], h.notices, false⟩ := by
  rw [forward, publish_hangup, hclosed]
  rfl

/-- As long as the receiver is there, all that loads is sent, in order, and the forwarding goes on. -/
theorem forward_of_open {hs : List Hangup} (hopen : ∀ h ∈ hs, h.isOpen = true) :
    forward hs = ⟨hs.filterMap Hangup.settings?, hs.flatMap Hangup.notices, true⟩ := by
  induction hs with
  | nil => rfl
  | cons h rest ih =>
    obtain ⟨hfirst, hrest⟩ := List.forall_mem_cons.mp hopen
    rw [forward_cons_of_open hfirst, ih hrest]
    cases hsettings : h.settings? <;> simp [hsettings]

/-- The first hangup without a receiver is the last one, whatever its file is and whatever follows. -/
theorem forward_of_closed {before : List Hangup} {h : Hangup}
    (hbefore : ∀ b ∈ before, b.isOpen = true) (hclosed : h.isOpen = false) (after : List Hangup) :
    forward (before ++ h :: after) =
      ⟨before.filterMap Hangup.settings?, (before ++ [h]).flatMap Hangup.notices, false⟩ := by
  induction before with
  | nil =>
    rw [List.nil_append, forward_cons_of_closed hclosed]
    simp
  | cons b rest ih =>
    obtain ⟨hfirst, hrest⟩ := List.forall_mem_cons.mp hbefore
    rw [List.cons_append, forward_cons_of_open hfirst, ih hrest]
    cases hsettings : b.settings? <;> simp [hsettings]

/-! ## Hangups in the relay -/

namespace Relay

/-- The hangup that a move handles, if it is the listener for hangups that sends. -/
def hangup? (x : Relay) : Move → Option Hangup
  | .send .hangup =>
    match x.senders .hangup with
    | .holding file _ => some ⟨file, x.isOpen⟩
    | _ => none
  | _ => none

/-- The hangups that moves handle, one after the other. -/
def hangups (x : Relay) : List Move → List Hangup
  | [] => []
  | m :: rest => (x.hangup? m).toList ++ (x.step m).hangups rest

/-- What the listener for hangups has sent, the first first. -/
def forwarded (x : Relay) : List Snapshot := (x.sent.filter (·.sender = .hangup)).map (·.snapshot)

/-- What a move can do to the listener for hangups. -/
inductive Listens (x : Relay) (m : Move) (y : Relay) : Prop
  /-- It does not touch the listener. -/
  | still (hhangup : x.hangup? m = none) (hsender : y.senders .hangup = x.senders .hangup)
    (hsent : y.forwarded = x.forwarded)
  /-- The listener reads the file. -/
  | read (hhangup : x.hangup? m = none) (hwaiting : x.senders .hangup = .waiting)
    (hholding : y.senders .hangup ≠ .ended) (hsent : y.forwarded = x.forwarded)
  /-- The listener sends what it holds, and goes on if the receiver is there. -/
  | handled (h : Hangup) (hhangup : x.hangup? m = some h) (hholding : x.senders .hangup ≠ .ended)
    (hsender : y.senders .hangup = if h.isOpen then .waiting else .ended)
    (hsent : y.forwarded = x.forwarded ++ if h.isOpen then h.settings?.toList else [])
  /-- The listener ends without a hangup. -/
  | left (hleave : m = .leave .hangup) (hhangup : x.hangup? m = none)
    (hended : y.senders .hangup = .ended) (hsent : y.forwarded = x.forwarded)

theorem listens_load (x : Relay) (t : Trigger) : Listens x (.load t) (x.load t) := by
  unfold load
  cases hwaiting : x.senders t with
  | holding file edition => exact .still rfl rfl rfl
  | ended => exact .still rfl rfl rfl
  | waiting =>
    cases t with
    | fileChanged => exact .still rfl rfl rfl
    | hangup => exact .read rfl hwaiting nofun rfl

theorem listens_leave (x : Relay) (t : Trigger) : Listens x (.leave t) (x.leave t) := by
  unfold leave
  cases x.senders t with
  | holding file edition => exact .still rfl rfl rfl
  | ended => exact .still rfl rfl rfl
  | waiting =>
    cases t with
    | fileChanged => exact .still rfl rfl rfl
    | hangup => exact .left rfl rfl rfl rfl

/-- Of what a sender has sent, the listener for hangups has forwarded its own. -/
theorem forwarded_of_sent {x y : Relay} {t : Trigger} {edition : Nat} {o : Option Snapshot}
    (h : y.sent = x.sent ++ o.toList.map (Shipment.mk t edition)) :
    y.forwarded = x.forwarded ++ if t = .hangup then o.toList else [] := by
  unfold forwarded
  rw [h, List.filter_append, List.map_append]
  cases o with
  | none => simp
  | some s => by_cases ht : t = .hangup <;> simp [ht]

theorem listens_send (x : Relay) (t : Trigger) : Listens x (.send t) (x.send t) := by
  unfold send
  cases hsender : x.senders t with
  | waiting | ended =>
    refine .still ?_ rfl rfl
    cases t with
    | fileChanged => rfl
    | hangup =>
      unfold hangup?
      rw [hsender]
  | holding file edition =>
    cases t with
    | fileChanged =>
      refine .still rfl rfl ?_
      rw [forwarded_of_sent (x := x) rfl, if_neg nofun, List.append_nil]
    | hangup =>
      refine .handled ⟨file, x.isOpen⟩ ?_ ?_ ?_ ?_
      · unfold hangup?
        rw [hsender]
      · rw [hsender]
        nofun
      · dsimp only
        rw [received_publish]
        rfl
      · rw [forwarded_of_sent (x := x) rfl, if_pos rfl, sent_publish]
        cases x.isOpen <;> rfl

theorem listens_of_same {x y : Relay} {m : Move} (hhangup : x.hangup? m = none)
    (hsame : y.senders = x.senders ∧ y.sent = x.sent) : Listens x m y := by
  refine .still hhangup (by rw [hsame.1]) ?_
  unfold forwarded
  rw [hsame.2]

theorem listens_step (x : Relay) (m : Move) : Listens x m (x.step m) := by
  cases m with
  | write content => exact .still rfl rfl rfl
  | load t => exact listens_load x t
  | send t => exact listens_send x t
  | leave t => exact listens_leave x t
  | shutDown => exact .still rfl rfl rfl
  | take =>
    refine listens_of_same rfl ?_
    dsimp only [step]
    unfold take
    split
    · exact ⟨rfl, rfl⟩
    · split <;> exact ⟨rfl, rfl⟩
    · exact ⟨rfl, rfl⟩
  | heed =>
    refine listens_of_same rfl ?_
    dsimp only [step]
    unfold heed
    split <;> exact ⟨rfl, rfl⟩
  | close =>
    refine listens_of_same rfl ?_
    dsimp only [step]
    unfold close
    split <;> exact ⟨rfl, rfl⟩

/-! ## Runs of the relay -/

theorem run_cons (x : Relay) (m : Move) (rest : List Move) : x.run (m :: rest) = (x.step m).run rest :=
  rfl

/-- A listener that has ended handles no hangups any more. -/
theorem hangups_of_ended {x : Relay} (hended : x.senders .hangup = .ended) (moves : List Move) :
    x.hangups moves = [] ∧ (x.run moves).senders .hangup = .ended := by
  induction moves generalizing x with
  | nil => exact ⟨rfl, hended⟩
  | cons m rest ih =>
    rw [hangups, run_cons]
    cases listens_step x m with
    | still hhangup hsender hsent =>
      rw [hhangup]
      exact ih (hsender.trans hended)
    | read hhangup hwaiting hholding hsent => cases hended.symm.trans hwaiting
    | handled h hhangup hholding hsender hsent => exact absurd hended hholding
    | left hleave hhangup hnow hsent =>
      rw [hhangup]
      exact ih hnow

/-- In any run the listener sends what `forward` sends of the hangups that it handles. -/
theorem forwarded_run (x : Relay) (moves : List Move) :
    (x.run moves).forwarded = x.forwarded ++ (forward (x.hangups moves)).sent := by
  induction moves generalizing x with
  | nil => exact (List.append_nil _).symm
  | cons m rest ih =>
    rw [run_cons, ih, hangups]
    cases listens_step x m with
    | still hhangup _ hsent | read hhangup _ _ hsent | left _ hhangup _ hsent =>
      rw [hhangup, hsent]
      rfl
    | handled h hhangup hholding hsender hsent =>
      rw [hhangup, hsent, Option.toList_some, List.singleton_append]
      cases hopen : h.isOpen with
      | true =>
        rw [forward_cons_of_open hopen, if_pos rfl, List.append_assoc]
      | false =>
        -- Without a receiver the listener ends, so no hangup follows.
        rw [hopen] at hsender
        rw [forward_cons_of_closed hopen, (hangups_of_ended hsender rest).1]
        simp [forward]

/-- A listener that is not made to end has ended if the forwarding has. -/
theorem ended_run {x : Relay} {moves : List Move} (hleave : .leave .hangup ∉ moves)
    (hx : x.senders .hangup ≠ .ended) :
    (x.run moves).senders .hangup = .ended ↔ (forward (x.hangups moves)).goesOn = false := by
  induction moves generalizing x with
  | nil => exact ⟨fun h => absurd h hx, nofun⟩
  | cons m rest ih =>
    obtain ⟨hm, hrest⟩ := List.ne_and_not_mem_of_not_mem_cons hleave
    rw [run_cons, hangups]
    cases listens_step x m with
    | still hhangup hsender _ =>
      rw [hhangup]
      exact ih hrest (by rwa [hsender])
    | read hhangup _ hholding _ =>
      rw [hhangup]
      exact ih hrest hholding
    | left heq _ _ _ => exact absurd heq.symm hm
    | handled h hhangup hholding hsender hsent =>
      rw [hhangup, Option.toList_some, List.singleton_append]
      cases hopen : h.isOpen with
      | true =>
        rw [hopen, if_pos rfl] at hsender
        rw [forward_cons_of_open hopen]
        exact ih hrest (by rw [hsender]; nofun)
      | false =>
        rw [hopen] at hsender
        rw [forward_cons_of_closed hopen]
        exact iff_of_true (hangups_of_ended hsender rest).2 rfl

/-- After a hangup without a receiver no other is handled. -/
theorem hangups_end {x : Relay} {moves : List Move} {before after : List Hangup} {h : Hangup}
    (heq : x.hangups moves = before ++ h :: after) (hclosed : h.isOpen = false) : after = [] := by
  induction moves generalizing x before with
  | nil => cases before <;> cases heq
  | cons m rest ih =>
    rw [hangups] at heq
    cases listens_step x m with
    | still hhangup _ _ | read hhangup _ _ _ | left _ hhangup _ _ =>
      rw [hhangup] at heq
      exact ih heq
    | handled k hhangup hholding hsender hsent =>
      rw [hhangup, Option.toList_some, List.singleton_append] at heq
      cases before with
      | nil =>
        obtain ⟨rfl, hafter⟩ := List.cons.inj heq
        rw [hclosed] at hsender
        rw [← hafter, (hangups_of_ended hsender rest).1]
      | cons b before =>
        exact ih (List.cons.inj heq).2

end Relay

/-- **Whether the receiver is there, and nothing else, decides how long hangups are forwarded.** A
    file may be found in five ways. However it is found, publishing it answers whether the receiver
    is there, and sends what is found if it is settings and the receiver is there. So of hangups with
    a receiver all that loads is sent, in order, and the first hangup without one is the last,
    whatever its file is and whatever follows. In any run of the relay in which it is not made to
    end, the listener for hangups sends what is forwarded of the hangups that it handles, ends with
    the first that finds no receiver, and handles none after it. -/
theorem hangups_forwarded :
    (∀ file o, Holds file o ↔ file.load.toOption = o) ∧
    (∀ file o, Holds file o → ∀ isOpen, (publish file isOpen).received = isOpen ∧
      (publish file isOpen).sent = if isOpen then o else none) ∧
    (∀ hs, (∀ h ∈ hs, h.isOpen = true) →
      forward hs = ⟨hs.filterMap Hangup.settings?, hs.flatMap Hangup.notices, true⟩) ∧
    (∀ before h after, (∀ b ∈ before, b.isOpen = true) → h.isOpen = false →
      forward (before ++ h :: after) =
        ⟨before.filterMap Hangup.settings?, (before ++ [h]).flatMap Hangup.notices, false⟩) ∧
    ∀ r file moves, .leave .hangup ∉ moves →
      let x := (Relay.start r file).run moves
      let hs := (Relay.start r file).hangups moves
      x.forwarded = (forward hs).sent ∧
        (x.senders .hangup = .ended ↔ (forward hs).goesOn = false) ∧
        ∀ before h after, hs = before ++ h :: after → h.isOpen = false → after = [] := by
  refine ⟨fun file o => holds_iff, fun file o h => publish_of_holds h, fun hs => forward_of_open,
    fun before h after hbefore hclosed => forward_of_closed hbefore hclosed after, ?_⟩
  intro r file moves hleave x hs
  refine ⟨Relay.forwarded_run _ moves, Relay.ended_run hleave nofun, ?_⟩
  intro before h after heq hclosed
  exact Relay.hangups_end heq hclosed

/-- A file that lists a backend without a section. -/
def unfinishedContent : ByteArray := "[backend]\nbackends = \"a\"".toUTF8

/-- A hangup without a file and one with a file that loads; then the loop ends, and a third hangup
    finds the same file and no receiver. -/
def lastUnheard : List Move :=
  [.load .hangup, .send .hangup, .write unfinishedContent, .load .hangup, .send .hangup, .shutDown,
    .heed, .close, .load .hangup, .send .hangup]

theorem hangups_forwarded_lastUnheard :
    let x := (Relay.start listingRegistry .missing).run lastUnheard
    let hs := (Relay.start listingRegistry .missing).hangups lastUnheard
    .leave .hangup ∉ lastUnheard ∧ hs.map (·.isOpen) = [true, true, false] ∧
      hs.map (·.settings?.isSome) = [false, true, true] ∧ x.forwarded.length = 1 ∧
      x.senders .hangup = .ended ∧ (publish .missing true).received = true := by
  have hleave : .leave .hangup ∉ lastUnheard := by
    unfold lastUnheard
    simp only [List.mem_cons, reduceCtorEq, List.not_mem_nil, or_self, not_false_eq_true]
  obtain ⟨-, hpublish, -, -, hrelay⟩ := hangups_forwarded
  have hlistener := hrelay listingRegistry .missing lastUnheard hleave
  dsimp only at hlistener ⊢
  obtain ⟨hsent, hended, -⟩ := hlistener
  refine ⟨hleave, by decide +kernel, by decide +kernel, ?_, ?_, (hpublish _ _ .missing true).1⟩
  · rw [hsent]
    decide +kernel
  · rw [hended]
    decide +kernel

end Switchboard.Upkeep
