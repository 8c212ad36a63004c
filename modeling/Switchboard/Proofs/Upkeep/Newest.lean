import Switchboard.Proofs.Upkeep.Delivery
/-
  The newest content of the file. Loading and sending are two moves of a sender, and the two senders
  do not wait for each other. So a hangup may read the file, the file may be written, the watcher may
  read and send the new content, and then the hangup sends what it read: the loop applies the old
  content last (`newest_content_overtaken`). `newest_content_iff` says that this is the only way for
  the registry to miss the newest content once all is at rest.

  The argument is about the end of what was sent. What is read is dated by the number of writes
  before it (`Dated`). Once the watcher has sent the newest content, the senders can only send that
  content again, but for the one thing that the listener for hangups may still hold; hence the last
  thing sent is up to date, or it comes from a hangup and the one before it is (`Ends`).
-/
namespace Switchboard.Upkeep

open Switchboard.Settings Switchboard.Tenancy

namespace Relay

/-! ## What was read when -/

/-- What is held or was sent was read when the file had been written at most as often as now; if it
    was as often, the file still has that content. After the last write, the watcher reads anew. -/
structure Dated (x : Relay) : Prop where
  held : ∀ t file edition, x.senders t = .holding file edition →
    edition ≤ x.edition ∧ (edition = x.edition → file = x.file)
  sent : ∀ p ∈ x.sent,
    p.edition ≤ x.edition ∧ (p.edition = x.edition → x.file.load = .ok p.snapshot)
  noticed : x.unnoticed = false → ∀ file edition,
    x.senders .fileChanged = .holding file edition → edition = x.edition

/-- Only the sender that has moved can hold anything new. -/
theorem holding_withSender {x : Relay} {t u : Trigger} {s : Sender} {file : File} {edition : Nat}
    (hs : s = .waiting ∨ s = .ended)
    (h : (x.withSender t s).senders u = .holding file edition) :
    u ≠ t ∧ x.senders u = .holding file edition := by
  unfold withSender at h
  dsimp only at h
  split at h
  · rw [h] at hs
    rcases hs with hs | hs <;> cases hs
  · next hne => exact ⟨hne, h⟩

theorem dated_start (r : Registry) (file : File) : Dated (start r file) :=
  ⟨nofun, nofun, nofun⟩

/-- A sender that holds nothing any more does not disturb the dates. -/
theorem Dated.withSender {x : Relay} (h : Dated x) (t : Trigger) {s : Sender}
    (hs : s = .waiting ∨ s = .ended) : Dated (x.withSender t s) where
  held u file edition hu := h.held u file edition (holding_withSender hs hu).2
  sent := h.sent
  noticed hnoticed file edition hu := h.noticed hnoticed file edition (holding_withSender hs hu).2

theorem dated_step (x y : Relay) (hstep : Step x y) (h : Dated x) : Dated y := by
  cases hstep with
  | written content =>
    refine ⟨fun t file edition ht => ?_, fun p hp => ?_, nofun⟩
    · have hle := (h.held t file edition ht).1
      exact ⟨Nat.le_succ_of_le hle, fun heq => absurd (heq ▸ hle) (Nat.not_succ_le_self _)⟩
    · have hle := (h.sent p hp).1
      exact ⟨Nat.le_succ_of_le hle, fun heq => absurd (heq ▸ hle) (Nat.not_succ_le_self _)⟩
  | loaded t hwaiting =>
    have hheld : ∀ u file edition,
        (x.withSender t (.holding x.file x.edition)).senders u = .holding file edition →
        (file = x.file ∧ edition = x.edition) ∨ (u ≠ t ∧ x.senders u = .holding file edition) := by
      intro u file edition hu
      unfold Relay.withSender at hu
      dsimp only at hu
      split at hu
      · cases hu
        exact .inl ⟨rfl, rfl⟩
      · next hne => exact .inr ⟨hne, hu⟩
    refine ⟨fun u file edition hu => ?_, h.sent, fun hnoticed file edition hu => ?_⟩
    · rcases hheld u file edition hu with ⟨rfl, rfl⟩ | ⟨-, hu⟩
      · exact ⟨Nat.le_refl _, fun _ => rfl⟩
      · exact h.held u file edition hu
    · rcases hheld _ file edition hu with ⟨-, hedition⟩ | ⟨hne, hu⟩
      · exact hedition
      · -- It was not the watcher that read, so it had noticed the last write before.
        have hother : (t != .fileChanged) = true := bne_iff_ne.mpr (Ne.symm hne)
        dsimp only at hnoticed
        rw [hother, Bool.and_true] at hnoticed
        exact h.noticed hnoticed file edition hu
  | shipped t file edition s hholding hload hopen =>
    obtain ⟨hheld, hsent, hnoticed⟩ := h.withSender t (.inl rfl)
    refine ⟨hheld, fun p hp => ?_, hnoticed⟩
    rcases List.mem_append.mp hp with hp | hp
    · exact hsent p hp
    · cases List.mem_singleton.mp hp
      obtain ⟨hle, hfile⟩ := h.held t file edition hholding
      exact ⟨hle, fun heq => hfile heq ▸ hload⟩
  | withheld t file edition next hholding hnothing hnext => exact h.withSender t hnext
  | left t hwaiting => exact h.withSender t (.inr rfl)
  | _ => exact ⟨h.held, h.sent, h.noticed⟩

/-! ## The end of what was sent -/

/-- The last thing sent is up to date; or it was sent by a hangup that had read the file before its
    last write, the thing before is up to date, and the hangups hold nothing else of that kind. -/
inductive Ends (x : Relay) : Prop
  | fresh (front : List Shipment) (p : Shipment) (hsent : x.sent = front ++ [p])
    (hp : p.edition = x.edition)
  | late (front : List Shipment) (p q : Shipment) (hsent : x.sent = front ++ [p, q])
    (hp : p.edition = x.edition) (hq : q.edition < x.edition) (hsender : q.sender = .hangup)
    (hheld : ∀ file edition, x.senders .hangup = .holding file edition → edition = x.edition)

/-- The watcher is through with the last write, and what it sent was received. -/
structure Noticed (x : Relay) : Prop where
  written : 0 < x.edition
  noticed : x.unnoticed = false
  idle : ∀ file edition, x.senders .fileChanged ≠ .holding file edition
  heard : x.loop = .closed → x.shutdown = false
  loads : ∃ s, x.file.load = .ok s

/-- If the watcher is through with the last write, what was sent ends with what it sent. -/
def CaughtUp (x : Relay) : Prop := Noticed x → Ends x

/-- As long as nothing is written or sent, the end stays as it is, unless the hangups come to hold
    something that has been overtaken. -/
theorem Ends.keep {x y : Relay} (h : Ends x) (hsent : y.sent = x.sent)
    (hedition : y.edition = x.edition)
    (hheld : ∀ file edition, y.senders .hangup = .holding file edition →
      x.senders .hangup = .holding file edition ∨ edition = x.edition) : Ends y := by
  cases h with
  | fresh front p hends hp => exact .fresh front p (hsent.trans hends) (hp.trans hedition.symm)
  | late front p q hends hp hq hsender hlast =>
    refine .late front p q (hsent.trans hends) (hp.trans hedition.symm) (hedition ▸ hq) hsender
      fun file edition hu => ?_
    rw [hedition]
    rcases hheld file edition hu with hu | heq
    · exact hlast file edition hu
    · exact heq

/-- A sender that holds nothing any more, and has sent nothing, leaves the end as it is. -/
theorem Ends.withSender {x : Relay} (h : Ends x) (t : Trigger) {s : Sender}
    (hs : s = .waiting ∨ s = .ended) : Ends (x.withSender t s) :=
  h.keep rfl rfl fun _ _ hu => .inl (holding_withSender hs hu).2

/-- What the watcher sends is up to date. What a hangup sends is up to date as well, or has been
    overtaken, and then what was sent before is up to date. -/
theorem ends_shipped {x : Relay} (hdated : Dated x) (h : CaughtUp x) (t : Trigger) (file : File)
    (edition : Nat) (s : Snapshot) (hholding : x.senders t = .holding file edition)
    (hN : Noticed { x.withSender t .waiting with
      queue := x.queue ++ [s]
      sent := x.sent ++ [⟨t, edition, s⟩] }) :
    Ends { x.withSender t .waiting with
      queue := x.queue ++ [s]
      sent := x.sent ++ [⟨t, edition, s⟩] } := by
  cases t with
  | fileChanged =>
    exact .fresh x.sent _ rfl (hdated.noticed hN.noticed file edition hholding)
  | hangup =>
    have hends : Ends x := h ⟨hN.written, hN.noticed, hN.idle, hN.heard, hN.loads⟩
    rcases Nat.lt_or_eq_of_le (hdated.held _ file edition hholding).1 with hlt | heq
    · cases hends with
      | fresh front p hsent hp =>
        refine .late front p ⟨.hangup, edition, s⟩ ?_ hp hlt rfl nofun
        dsimp only
        rw [hsent, List.append_assoc]
        rfl
      | late front p q hsent hp hq hsender hheld =>
        -- One outdated thing has been sent, and the hangups held no other.
        exact absurd (hheld file edition hholding) (Nat.ne_of_lt hlt)
    · exact .fresh x.sent _ rfl heq

theorem caughtUp_step {r : Registry} (x y : Relay) (hstep : Step x y) (horderly : Orderly r x)
    (hdated : Dated x) (h : CaughtUp x) : CaughtUp y := by
  intro hN
  cases hstep with
  | still => exact h hN
  | written content => cases hN.noticed
  | loaded t hwaiting =>
    cases t with
    | fileChanged => exact absurd rfl (hN.idle x.file x.edition)
    | hangup =>
      have hnoticed : x.unnoticed = false := (Bool.and_true _).symm.trans hN.noticed
      refine (h ⟨hN.written, hnoticed, hN.idle, hN.heard, hN.loads⟩).keep rfl rfl
        fun file edition hu => .inr ?_
      cases hu
      rfl
  | shipped t file edition s hholding hload hopen =>
    exact ends_shipped hdated h t file edition s hholding hN
  | withheld t file edition next hholding hnothing hnext =>
    cases t with
    | fileChanged =>
      -- What it held was the newest content, so it was sent, unless the loop was gone too early.
      have hedition := hdated.noticed hN.noticed file edition hholding
      have hfile := (hdated.held _ file edition hholding).2 hedition
      rcases hnothing with hclosed | hfails
      · have hrunning : x.loop ≠ .running := by rw [hclosed]; nofun
        have hended := (horderly.finished hrunning (hN.heard hclosed)).2 .fileChanged
        cases hholding.symm.trans hended
      · obtain ⟨s, hs⟩ := hN.loads
        exact absurd hs (hfile ▸ hfails s)
    | hangup =>
      exact (h ⟨hN.written, hN.noticed, hN.idle, hN.heard, hN.loads⟩).withSender _ hnext
  | left t hwaiting =>
    refine (h ⟨hN.written, hN.noticed, fun file edition hu => ?_, hN.heard, hN.loads⟩).withSender t
      (.inr rfl)
    cases t with
    | fileChanged => cases hwaiting.symm.trans hu
    | hangup => exact hN.idle file edition hu
  | announced =>
    have hheard : x.loop = .closed → x.shutdown = false := fun hclosed => nomatch hN.heard hclosed
    exact (h ⟨hN.written, hN.noticed, hN.idle, hheard, hN.loads⟩).keep rfl rfl
      fun _ _ hu => .inl hu
  | took s rest hrunning hqueue =>
    exact (h ⟨hN.written, hN.noticed, hN.idle, hN.heard, hN.loads⟩).keep rfl rfl
      fun _ _ hu => .inl hu
  | stopped hrunning hwhy =>
    have hheard : x.loop = .closed → x.shutdown = false :=
      fun hclosed => nomatch hrunning.symm.trans hclosed
    exact (h ⟨hN.written, hN.noticed, hN.idle, hheard, hN.loads⟩).keep rfl rfl
      fun _ _ hu => .inl hu
  | closed hstopped =>
    exact (h ⟨hN.written, hN.noticed, hN.idle, fun _ => hN.heard rfl, hN.loads⟩).keep rfl rfl
      fun _ _ hu => .inl hu

theorem caughtUp_run (r : Registry) (file : File) (moves : List Move) :
    Dated ((start r file).run moves) ∧ CaughtUp ((start r file).run moves) := by
  have hrun := run_induction (P := fun x => Orderly r x ∧ Dated x ∧ CaughtUp x)
    (fun x y hstep ⟨horderly, hdated, h⟩ => ⟨orderly_step x y hstep horderly,
      dated_step x y hstep hdated, caughtUp_step x y hstep horderly hdated h⟩)
    ⟨orderly_start r file, dated_start r file, fun hN => absurd hN.written (Nat.lt_irrefl 0)⟩ moves
  exact hrun.2

/-! ## The relay at rest -/

/-- Nothing is under way any more: nobody holds anything, the watcher has read the file since it was
    last written, the queue is empty, and nothing was lost in it through a shutdown. -/
structure AtRest (x : Relay) : Prop where
  idle : ∀ t file edition, x.senders t ≠ .holding file edition
  noticed : x.unnoticed = false
  drained : x.queue = []
  heard : x.loop = .closed → x.shutdown = false

/-- What was sent last was read by a hangup before the last write of the file, and lists other
    backends than the file does. -/
structure Outdated (x : Relay) (s : Source) (p : Shipment) : Prop where
  last : x.sent.getLast? = some p
  sender : p.sender = .hangup
  edition : p.edition < x.edition
  lists : listsBackends p.snapshot.source = true
  differs : configuredTable p.snapshot.source ≠ configuredTable s

/-- At rest, all that was sent has been applied. -/
theorem taken_of_atRest {r : Registry} {x : Relay} (h : Orderly r x) (hrest : AtRest x) :
    x.taken = x.settings := by
  by_cases hclosed : x.loop = .closed
  · exact (h.finished (by rw [hclosed]; nofun) (hrest.heard hclosed)).1
  · have hsettings := h.queued hclosed
    rw [hrest.drained, List.append_nil] at hsettings
    exact hsettings.symm

theorem load_of_listing? {file : File} {s : Source} (h : listing? file = some s) :
    listsBackends s = true ∧ ∃ snapshot, file.load = .ok snapshot ∧ snapshot.source = s := by
  rw [listing?_eq_filter] at h
  obtain ⟨hs, hlists⟩ := Option.filter_eq_some_iff.mp h
  cases hload : file.load with
  | error fault =>
    rw [hload] at hs
    cases hs
  | ok snapshot =>
    rw [hload] at hs
    cases hs
    exact ⟨hlists, snapshot, rfl, rfl⟩

/-- What was sent in the last edition of a file that lists backends is what the file lists. -/
theorem source_of_newest {x : Relay} (hdated : Dated x) {s : Source}
    (hs : listing? x.file = some s) {p : Shipment} (hp : p ∈ x.sent) (hnew : p.edition = x.edition) :
    p.snapshot.source = s := by
  obtain ⟨-, snapshot, hload, hsource⟩ := load_of_listing? hs
  cases hload.symm.trans ((hdated.sent p hp).2 hnew)
  exact hsource

/-- What reloads with all that was sent leave: what the file lists, or what a hangup sent last that
    had been overtaken. -/
theorem settledTable_of_ends {x : Relay} (hends : Ends x) (hdated : Dated x) {s : Source}
    (hs : listing? x.file = some s) (before : HostTable Backend) :
    ∃ q, x.sent.getLast? = some q ∧
      ((q.edition = x.edition ∧
          settledTable before (x.sent.map (·.snapshot.source)) = configuredTable s) ∨
        (q.edition < x.edition ∧ q.sender = .hangup ∧
          settledTable before (x.sent.map (·.snapshot.source)) =
            if listsBackends q.snapshot.source then configuredTable q.snapshot.source
            else configuredTable s)) := by
  have hlists := (load_of_listing? hs).1
  cases hends with
  | fresh front p hsent hp =>
    have hsource : p.snapshot.source = s :=
      source_of_newest hdated hs (hsent ▸ List.mem_append_right _ (List.mem_singleton_self p)) hp
    refine ⟨p, by rw [hsent, List.getLast?_concat], .inl ⟨hp, ?_⟩⟩
    rw [hsent, List.map_append, List.map_singleton, settledTable_append_singleton, hsource,
      if_pos hlists]
  | late front p q hsent hp hq hsender hheld =>
    have hsplit : x.sent = (front ++ [p]) ++ [q] := by rw [hsent, List.append_assoc]; rfl
    have hsource : p.snapshot.source = s := by
      refine source_of_newest hdated hs ?_ hp
      rw [hsent]
      exact List.mem_append_right _ List.mem_cons_self
    refine ⟨q, by rw [hsplit, List.getLast?_concat], .inr ⟨hq, hsender, ?_⟩⟩
    rw [hsplit, List.map_append, List.map_singleton, settledTable_append_singleton,
      List.map_append, List.map_singleton, settledTable_append_singleton, hsource, if_pos hlists]

theorem exists_outdated_iff {x : Relay} {s : Source} {q : Shipment}
    (hlast : x.sent.getLast? = some q) :
    (∃ p, Outdated x s p) ↔ q.sender = .hangup ∧ q.edition < x.edition ∧
      listsBackends q.snapshot.source = true ∧
      configuredTable q.snapshot.source ≠ configuredTable s := by
  constructor
  · rintro ⟨p, hp⟩
    cases hlast.symm.trans hp.last
    exact ⟨hp.sender, hp.edition, hp.lists, hp.differs⟩
  · rintro ⟨hsender, hedition, hlists, hdiffers⟩
    exact ⟨q, hlast, hsender, hedition, hlists, hdiffers⟩

/-- **The newest content, but for overtaken hangups.** If the file has been written, its content
    lists backends, and nothing is under way any more, then the table of the registry says what the
    file lists, unless what was sent last comes from a hangup that had read the file before its last
    write. -/
theorem newest_content_iff (r : Registry) (file : File) (moves : List Move) (s : Source) :
    let x := (start r file).run moves
    AtRest x → 0 < x.edition → listing? x.file = some s →
      (x.registry.hosts.backends = configuredTable s ↔ ¬∃ p, Outdated x s p) := by
  intro x hrest hwritten hs
  have horderly : Orderly r x := orderly_run r file moves
  obtain ⟨hdated, hcaught⟩ : Dated x ∧ CaughtUp x := caughtUp_run r file moves
  obtain ⟨-, snapshot, hload, -⟩ := load_of_listing? hs
  have hends : Ends x :=
    hcaught ⟨hwritten, hrest.noticed, hrest.idle _, hrest.heard, snapshot, hload⟩
  have htable : x.registry.hosts.backends =
      settledTable r.hosts.backends (x.sent.map (·.snapshot.source)) := by
    rw [horderly.registry_eq, registry_appliedAll, backends_reloadAll,
      taken_of_atRest horderly hrest, settings, List.map_map]
    rfl
  obtain ⟨q, hlast, ⟨hnew, hsettled⟩ | ⟨hold, hsender, hsettled⟩⟩ :=
    settledTable_of_ends hends hdated hs r.hosts.backends
  · rw [htable, hsettled, exists_outdated_iff hlast]
    exact iff_of_true rfl fun h => absurd hnew (Nat.ne_of_lt h.2.1)
  · rw [htable, hsettled, exists_outdated_iff hlast]
    cases listsBackends q.snapshot.source with
    | false => exact iff_of_true rfl fun h => nomatch h.2.2.1
    | true =>
      rw [if_pos rfl]
      constructor
      · exact fun heq h => h.2.2.2 heq
      · intro h
        refine Classical.byContradiction fun hdiffers => ?_
        exact h ⟨hsender, hold, rfl, hdiffers⟩

/-- The listing file with another secret. -/
def rotatedContent : ByteArray :=
  "[backend]\nbackends = \"a\"\n[a]\nurl = \"https://h/\"\nsecret = \"t\"".toUTF8

/-- A hangup reads the file, the file is written, the watcher reads and sends it, and only then does
    the hangup send what it had read. Both senders end, and the loop takes what was sent. -/
def overtaking : List Move :=
  [.load .hangup, .write rotatedContent, .load .fileChanged, .send .fileChanged, .send .hangup,
    .leave .fileChanged, .leave .hangup, .take, .take]

/-- The relay then. -/
def overtaken : Relay := (start listingRegistry listingFile).run overtaking

theorem run_overtaking : (start listingRegistry listingFile).run overtaking = overtaken := rfl

/-- Where it ends: nothing is left to do, the file gives the backend its new secret, and the registry
    has the old one. -/
theorem end_overtaken :
    overtaken.isDeserted = true ∧ overtaken.loop = .running ∧ overtaken.unnoticed = false ∧
      overtaken.queue.isEmpty = true ∧ 0 < overtaken.edition ∧
      (listing? overtaken.file).map configuredTable =
        some [("h", [⟨"a", "https://h/", Secret.ofText "t", false⟩])] ∧
      overtaken.registry.hosts.backends =
        [("h", [⟨"a", "https://h/", Secret.ofText "s", false⟩])] := by
  decide +kernel

theorem atRest_overtaken : AtRest overtaken := by
  obtain ⟨hdeserted, hrunning, hnoticed, hqueue, -⟩ := end_overtaken
  refine ⟨fun t file edition hholding => ?_, hnoticed, List.isEmpty_iff.mp hqueue, ?_⟩
  · cases (isDeserted_eq_true_iff.mp hdeserted t).symm.trans hholding
  · rw [hrunning]
    nofun

/-- The table of the registry is not what the file lists. -/
theorem stale_overtaken : 0 < overtaken.edition ∧ ∃ s, listing? overtaken.file = some s ∧
    overtaken.registry.hosts.backends ≠ configuredTable s := by
  obtain ⟨-, -, -, -, hwritten, hfile, hregistry⟩ := end_overtaken
  obtain ⟨s, hs, htable⟩ := Option.map_eq_some_iff.mp hfile
  refine ⟨hwritten, s, hs, ?_⟩
  rw [hregistry, htable]
  decide +kernel

theorem newest_content_iff_outdated : AtRest overtaken ∧ 0 < overtaken.edition ∧
    ∃ s p, listing? overtaken.file = some s ∧ Outdated overtaken s p := by
  obtain ⟨hwritten, s, hs, hstale⟩ := stale_overtaken
  have hiff := newest_content_iff listingRegistry listingFile overtaking s
  rw [run_overtaking] at hiff
  obtain ⟨p, hp⟩ := Classical.not_not.mp fun hnone =>
    hstale ((hiff atRest_overtaken hwritten hs).mpr hnone)
  exact ⟨atRest_overtaken, hwritten, s, p, hs, hp⟩

/-- It is not so that the registry always gets to the newest content. -/
theorem newest_content_overtaken :
    ¬∀ (r : Registry) (file : File) (moves : List Move) (s : Source),
      let x := (start r file).run moves
      AtRest x → 0 < x.edition → listing? x.file = some s →
        x.registry.hosts.backends = configuredTable s := by
  intro h
  obtain ⟨hwritten, s, hs, hstale⟩ := stale_overtaken
  have hnewest := h listingRegistry listingFile overtaking s
  rw [run_overtaking] at hnewest
  exact hstale (hnewest atRest_overtaken hwritten hs)

end Relay

end Switchboard.Upkeep
