import Switchboard.Text.Quoted
import Switchboard.Decimal.Layout
import Switchboard.Url.Fault
/-
  The journal: what the switchboard reports about its own work. Operations return the notices that
  they make; a notice has a level, a text and named fields.
-/
namespace Switchboard

/-- How urgent a notice is. -/
inductive Level
  | error
  | warn
  | info
  | debug
  deriving DecidableEq, Repr

/-- Something that is reported. -/
inductive Notice
  | backendIncomplete (id : String)
  | backendWithoutHost (id url : String)
  | backendUrlInvalid (id url : String) (fault : Url.Fault)
  | pathRemoved (hostname : String)
  | hostnameInvalid (hostname : String) (fault : Url.Fault)
  | allHostsAllowed
  | allowedIgnored
  | backendAdded (id url : String)
  | noHostsAllowed
  | allowedDeprecated
  | hostsAllowed (hosts : List String)
  | noBackends
  | keptForLackOfBackends
  | hostRemoved (host : String)
  | reloaded (kept added removed : Nat)
  | modeFixed
  | unchanged
  | loopStopped
  | watching
  | fileChanged
  | loadFailed
  | hangupReceived
  deriving DecidableEq, Repr

/-- The level of a notice. -/
def Notice.level : Notice → Level
  | .loadFailed => .error
  | .backendIncomplete _ | .backendWithoutHost .. | .backendUrlInvalid .. | .pathRemoved _
  | .hostnameInvalid .. | .allHostsAllowed | .allowedIgnored | .noHostsAllowed
  | .allowedDeprecated | .noBackends => .warn
  | .keptForLackOfBackends | .unchanged => .debug
  | _ => .info

/-- The text of a notice. -/
def Notice.message : Notice → String
  | .backendIncomplete _ => "Backend is missing or incomplete, skipping"
  | .backendWithoutHost .. => "Backend url has no host, skipping"
  | .backendUrlInvalid .. => "Backend has an invalid url configured, skipping"
  | .pathRemoved _ => "Removing path from allowed hostname, check your configuration!"
  | .hostnameInvalid .. => "Invalid allowed hostname, skipping"
  | .allHostsAllowed => "All backend hostnames are allowed, only use for development!"
  | .allowedIgnored => "Both \"backends\" and \"allowed\" are configured, ignoring \"allowed\""
  | .backendAdded .. => "Backend added"
  | .noHostsAllowed => "No backend hostnames are allowed, check your configuration!"
  | .allowedDeprecated =>
    "Using deprecated backend configuration. Please migrate the \"allowed\" setting to the new \"backends\" configuration."
  | .hostsAllowed _ => "Allowed backend hostnames"
  | .noBackends => "No backends configured, all backend requests will be rejected"
  | .keptForLackOfBackends =>
    "No explicit backends in new configuration, keeping current backends"
  | .hostRemoved _ => "Backend host removed"
  | .reloaded .. => "Backends reloaded"
  | .modeFixed => "Configuration reloaded, backend mode settings only apply at startup"
  | .unchanged => "Configuration reloaded, backends unchanged"
  | .loopStopped => "Backend reload loop stopped"
  | .watching => "Config watcher started"
  | .fileChanged => "Config file change detected, reloading"
  | .loadFailed => "Failed to reload config, keeping current backends"
  | .hangupReceived => "SIGHUP received, reloading configuration"

/-- The fields of a notice. -/
def Notice.fields : Notice → List (String × String)
  | .backendIncomplete id => [("backend", id)]
  | .backendWithoutHost id url => [("backend", id), ("url", url)]
  | .backendUrlInvalid id url fault =>
    [("backend", id), ("url", url), ("error", fault.message)]
  | .pathRemoved hostname => [("hostname", hostname)]
  | .hostnameInvalid hostname fault => [("hostname", hostname), ("error", fault.message)]
  | .backendAdded id url => [("backend", id), ("url", url)]
  | .hostsAllowed hosts => [("hosts", Text.quotedList hosts)]
  | .hostRemoved host => [("host", host)]
  | .reloaded kept added removed =>
    [("kept", number kept), ("added", number added), ("removed", number removed)]
  | _ => []
where
  /-- A number in decimal digits. -/
  number (n : Nat) : String := String.ofList (Decimal.digitsOf n)

end Switchboard
