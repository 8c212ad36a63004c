import Switchboard.Tenancy.Registry
/-
  Reloading: a registry takes over the listed backends of new settings. Entries that are still wanted
  stay the same entries, and hosts of which nothing is wanted any more are dropped. Settings that
  list no backends change nothing.
-/
namespace Switchboard.Tenancy

open Switchboard.Settings (Source)

/-- What a reload has changed. -/
structure Summary where
  kept : Nat
  added : Nat
  removed : Nat
  hostsRemoved : List String
  deriving DecidableEq, Repr

namespace Summary

/-- Nothing has changed. -/
def zero : Summary := ⟨0, 0, 0, []⟩

/-- Whether nothing has been added or removed. -/
def isUnchanged (s : Summary) : Bool := s.added == 0 && s.removed == 0 && s.hostsRemoved.isEmpty

end Summary

/-! ## One host -/

/-- The first entry with the same backend. -/
def sameBackend? (existing : List Entry) (e : Entry) : Option Entry :=
  existing.find? fun x => x.backend == e.backend

/-- The wanted entries, each replaced by an existing one with the same backend if there is one. -/
def merged (existing wanted : List Entry) : List Entry :=
  wanted.map fun e => (sameBackend? existing e).getD e

/-- The wanted entries that exist already. -/
def keptEntries (existing wanted : List Entry) : List Entry :=
  wanted.filter fun e => (sameBackend? existing e).isSome

/-- The wanted entries that do not exist yet. -/
def addedEntries (existing wanted : List Entry) : List Entry :=
  wanted.filter fun e => (sameBackend? existing e).isNone

/-- The existing entries that are not wanted any more. -/
def removedEntries (existing wanted : List Entry) : List Entry :=
  existing.filter fun e => (sameBackend? wanted e).isNone

/-- Counts what happens to the entries of a host. -/
def Summary.count (s : Summary) (existing wanted : List Entry) : Summary :=
  { s with
    kept := s.kept + (keptEntries existing wanted).length
    added := s.added + (addedEntries existing wanted).length
    removed := s.removed + (removedEntries existing wanted).length }

/-- Merges the entries of a host and counts what happens to them. -/
def upsert (existing wanted : List Entry) (s : Summary) : List Entry × Summary :=
  (merged existing wanted, s.count existing wanted)

/-! ## All hosts -/

/-- The hosts of a table that another one does not have. -/
def droppedHosts (current target : HostTable Entry) : HostTable Entry :=
  current.filter fun p => (target.find? p.1).isNone

/-- The table that replaces the current one. -/
def nextTable (current target : HostTable Entry) : HostTable Entry :=
  target.map fun p => (p.1, merged (current.row p.1) p.2)

/-- What the replacement of a table changes. -/
def changes (current target : HostTable Entry) : Summary :=
  let dropped := droppedHosts current target
  let start : Summary := ⟨0, 0, dropped.values.length, dropped.names⟩
  target.foldl (fun s p => s.count (current.row p.1) p.2) start

/-- How a reload ends. -/
inductive Outcome
  /-- The settings list no backends. -/
  | skipped
  | applied (s : Summary)
  deriving DecidableEq

/-- The notices of a reload that has been applied. -/
def Summary.notices (s : Summary) : List Notice :=
  s.hostsRemoved.map .hostRemoved ++ [.reloaded s.kept s.added s.removed]

/-- A reload: the registry afterwards, how it ended, and what is reported. -/
structure Reloaded where
  registry : Registry
  outcome : Outcome
  notices : List Notice

/-- Takes over the listed backends of new settings. -/
def Registry.reload (r : Registry) (s : Source) : Reloaded :=
  if listsBackends s then
    let target := stampedTable s r.nextStamp
    let summary := changes r.hosts target
    ⟨{ r with
        hosts := nextTable r.hosts target
        nextStamp := r.nextStamp + (placedBackends s).length },
      .applied summary, configuredNotices s ++ summary.notices⟩
  else ⟨r, .skipped, [.keptForLackOfBackends]⟩

end Switchboard.Tenancy
