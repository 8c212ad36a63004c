import Switchboard.Tenancy.Reload
/-
  Sharing: one registry is reloaded and asked by many calls at once. All they share is the table of
  hosts, which is read as a whole and replaced as a whole. A reload reads the table, computes the one
  that is to replace it, and puts that in its place only if the table is still the one that it read;
  otherwise it reads and computes again. Asking for a URL reads the table once.

  Tables are told apart by their version, not by what they say: the version of a table is how many
  tables were in force before it.
-/
namespace Switchboard.Tenancy

open Switchboard.Settings (Source)

/-- How far a reload is. -/
inductive Reloading
  | called
  /-- It has the table of the listed backends. -/
  | aimed (target : HostTable Entry)
  /-- It has read the table in force. -/
  | based (target : HostTable Entry) (version : Nat) (current : HostTable Entry)
  /-- It has computed what is to replace the table that it has read. -/
  | merged (target : HostTable Entry) (version : Nat) (next : HostTable Entry) (summary : Summary)
  /-- It is over; `ended` is the version of the table in force then. -/
  | returned (outcome : Outcome) (notices : List Notice) (ended : Nat)

/-- How far a look-up is. -/
inductive Asking
  | called
  /-- It has read the table in force. -/
  | holding (version : Nat) (table : HostTable Entry)
  /-- It is over; the answer is by the table of `version`, and `ended` is the version in force then. -/
  | returned (version : Nat) (answer : Option Entry) (ended : Nat)

/-- What a call is about. -/
inductive Work
  | reload (s : Source) (stage : Reloading)
  | lookUp (u : Url) (stage : Asking)

/-- A call. -/
structure Call where
  /-- The version of the table in force when it was made. -/
  began : Nat
  work : Work

/-- The replacement of a table. -/
structure Swap where
  /-- The number of the call that made it. -/
  call : Nat
  source : Source
  table : HostTable Entry

/-- A registry in use, with the calls made so far and a record of the replacements. -/
structure Sharing where
  registry : Registry
  calls : List Call
  /-- The first first. -/
  swaps : List Swap

namespace Sharing

/-- What happens at a time: a call is made, or goes one step on. -/
inductive Move
  | reload (s : Source)
  | lookUp (u : Url)
  | advance (call : Nat)

/-- A registry that nobody has called yet. -/
def start (r : Registry) : Sharing := ⟨r, [], []⟩

/-- The version of the table in force. -/
def version (x : Sharing) : Nat := x.swaps.length

/-- A call is made. -/
def call (x : Sharing) (work : Work) : Sharing := { x with calls := x.calls ++ [⟨x.version, work⟩] }

/-- A call has got somewhere. -/
def withWork (x : Sharing) (i : Nat) (work : Work) : Sharing :=
  { x with calls := x.calls.modify i fun c => { c with work := work } }

/-- A reload goes one step on. -/
def advanceReload (x : Sharing) (i : Nat) (s : Source) : Reloading → Sharing
  | .called =>
    if listsBackends s then
      { x.withWork i (.reload s (.aimed (stampedTable s x.registry.nextStamp))) with
        registry :=
          { x.registry with nextStamp := x.registry.nextStamp + (placedBackends s).length } }
    else x.withWork i (.reload s (.returned .skipped [.keptForLackOfBackends] x.version))
  | .aimed target => x.withWork i (.reload s (.based target x.version x.registry.hosts))
  | .based target version current =>
    x.withWork i
      (.reload s (.merged target version (nextTable current target) (changes current target)))
  | .merged target version next summary =>
    if version = x.version then
      { x.withWork i (.reload s
          (.returned (.applied summary) (configuredNotices s ++ summary.notices) (x.version + 1))) with
        registry := { x.registry with hosts := next }
        swaps := x.swaps ++ [⟨i, s, next⟩] }
    else x.withWork i (.reload s (.aimed target))
  | .returned .. => x

/-- A look-up goes one step on. -/
def advanceLookUp (x : Sharing) (i : Nat) (u : Url) : Asking → Sharing
  | .called => x.withWork i (.lookUp u (.holding x.version x.registry.hosts))
  | .holding version table =>
    x.withWork i
      (.lookUp u (.returned version (Registry.resolve? { x.registry with hosts := table } u)
        x.version))
  | .returned .. => x

/-- Makes a move; one for a call that was not made changes nothing. -/
def step (x : Sharing) : Move → Sharing
  | .reload s => x.call (.reload s .called)
  | .lookUp u => x.call (.lookUp u .called)
  | .advance i =>
    match x.calls[i]? with
    | some ⟨_, .reload s stage⟩ => x.advanceReload i s stage
    | some ⟨_, .lookUp u stage⟩ => x.advanceLookUp i u stage
    | none => x

/-- Makes moves, one after the other. -/
def run (x : Sharing) (moves : List Move) : Sharing := moves.foldl step x

end Sharing

end Switchboard.Tenancy
