import Switchboard.Directory
import Switchboard.Tenancy.Backend
/-
  Host tables: under the key of each host its backends, in the order in which they are asked.
-/
namespace Switchboard.Tenancy

/-- Values under host keys, in order. -/
abbrev HostTable (α : Type) := Directory (List α)

namespace HostTable

variable {α : Type}

/-- The values under a host key. -/
def row (t : HostTable α) (host : String) : List α := (t.find? host).getD []

/-- Adds a value behind those under its host key. -/
def push (t : HostTable α) (host : String) (a : α) : HostTable α :=
  t.insert host (t.row host ++ [a])

/-- The table of values given with their host keys, in order. -/
def ofList (pairs : List (String × α)) : HostTable α :=
  pairs.foldl (fun t p => t.push p.1 p.2) []

/-- All values, in the order of the host keys. -/
def values (t : HostTable α) : List α := t.flatMap (·.2)

end HostTable

end Switchboard.Tenancy
