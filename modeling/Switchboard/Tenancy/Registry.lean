import Switchboard.Tenancy.Configured
/-
  The registry: which backend a URL belongs to. How a registry treats hosts is settled when it is
  made: all hosts are allowed, or those of the listed backends, or those of the older list of
  allowed hosts. Only the table of hosts changes afterwards.
-/
namespace Switchboard.Tenancy

open Switchboard.Settings (Source)

/-- A registry. -/
structure Registry where
  hosts : HostTable Entry
  allowAll : Bool
  commonSecret : Secret
  /-- The backend that stands for hosts without one of their own, where there are such hosts. -/
  shared : Option Entry
  /-- The stamp of the next entry. -/
  nextStamp : Nat

/-- Gives each backend a stamp, counting from the first. -/
def stamped (first : Nat) : List Placed → List (String × Entry)
  | [] => []
  | (host, b) :: rest => (host, ⟨first, b⟩) :: stamped (first + 1) rest

/-- The table of the listed backends, with stamps from the first. -/
def stampedTable (s : Source) (first : Nat) : HostTable Entry :=
  .ofList (stamped first (placedBackends s))

namespace Registry

/-- The list of allowed hosts, unless it is blank. -/
def allowedSetting (s : Source) : Option String := nonBlank? (s.text? mainSection "allowed")

/-- The secret that backends without a section share. -/
def sharedSecret (s : Source) : Secret := .ofText ((s.text? mainSection "secret").getD "")

/-- A registry that allows all hosts. -/
def ofAllowAll (s : Source) : Registry × List Notice :=
  (⟨[], true, sharedSecret s, some ⟨0, .shared (sharedSecret s)⟩, 1⟩, [.allHostsAllowed])

/-- A registry of the listed backends. -/
def ofBackends (s : Source) : Registry × List Notice :=
  let table := stampedTable s 0
  let added := table.values.map fun e => Notice.backendAdded e.backend.id e.backend.url
  let ignored := if (allowedSetting s).isSome then [Notice.allowedIgnored] else []
  (⟨table, false, sharedSecret s, none, (placedBackends s).length⟩,
    ignored ++ configuredNotices s ++ added)

/-- A registry of allowed hosts, which share one entry. -/
def ofAllowed (s : Source) (raw : String) : Registry × List Notice :=
  let hosts := allowedHosts raw
  if hosts.isEmpty then
    (⟨[], false, sharedSecret s, none, 0⟩, allowedNotices raw ++ [.noHostsAllowed])
  else
    let entry : Entry := ⟨0, .shared (sharedSecret s)⟩
    let deprecated := if 1 < hosts.length then [Notice.allowedDeprecated] else []
    (⟨.ofList (hosts.map fun h => (h, entry)), false, sharedSecret s, some entry, 1⟩,
      allowedNotices raw ++ deprecated ++ [.hostsAllowed hosts])

/-- The registry that the settings describe. -/
def ofSource (s : Source) : Registry × List Notice :=
  if (s.flag? mainSection "allowall").getD false then ofAllowAll s
  else if listsBackends s then ofBackends s
  else
    match allowedSetting s with
    | some raw => ofAllowed s raw
    | none => (⟨[], false, sharedSecret s, none, 0⟩, [.noBackends])

/-- The first entry under the host of a URL that claims it. -/
def listed? (r : Registry) (u : Url) : Option Entry :=
  (r.hosts.row u.hostKey).find? (·.backend.claims u.normalized)

/-- The entry that a URL belongs to. -/
def resolve? (r : Registry) (u : Url) : Option Entry :=
  match r.listed? u with
  | some e => some e
  | none => if r.allowAll then r.shared else none

/-- The entry that the URL in a text belongs to. -/
def resolveText? (r : Registry) (text : String) : Option Entry :=
  match Url.ofText text with
  | .ok u => r.resolve? u
  | .error _ => none

/-- Whether a URL is allowed; none is not. -/
def allows (r : Registry) (u : Option Url) : Bool := (u.bind r.resolve?).isSome

/-- The secret for a URL. -/
def secret? (r : Registry) (u : Option Url) : Option Secret :=
  (u.bind r.resolve?).map (·.backend.secret)

/-- The keys of the hosts, in order. -/
def hostKeys (r : Registry) : List String := r.hosts.names

/-- Keeps the first of all entries with the same stamp. -/
def distinctEntries : List Entry → List Entry
  | [] => []
  | e :: rest => e :: (distinctEntries rest).filter (·.stamp ≠ e.stamp)

/-- All entries, each once, in the order of the hosts. -/
def entries (r : Registry) : List Entry := distinctEntries r.hosts.values

end Registry

end Switchboard.Tenancy
