import Switchboard.Settings.Snapshot
/-
  Faults of settings: what a snapshot contains that nobody can read. All faults are found, in the
  order of sections and keys.
-/
namespace Switchboard.Settings

/-- A fault of a snapshot. -/
inductive Fault
  | notSection (name : String)
  | notScalar (sec key : String)
  | allowAllNotFlag
  deriving DecidableEq, Repr

/-- The text of a fault. -/
def Fault.message : Fault → String
  | .notSection name => "top-level key `" ++ name ++ "` is not a section"
  | .notScalar sec key => "`" ++ sec ++ "." ++ key ++ "` must be a string, number or boolean"
  | .allowAllNotFlag => "`backend.allowall` must be a boolean"

/-- Whether a value holds others. -/
def isNested : Toml.Value → Bool
  | .list _ | .table _ => true
  | _ => false

/-- The faults of an entry at the top level. -/
def entryFaults (name : String) (v : Toml.Value) : List Fault :=
  match v.table? with
  | none => [.notSection name]
  | some t => (t.filter fun p => isNested p.2).map fun p => .notScalar name p.1

/-- The faults of the setting that allows all hosts. -/
def allowAllFaults (s : Snapshot) : List Fault :=
  match s.value? "backend" "allowall" with
  | none | some (.flag _) => []
  | some (.text t) => if (flagOfText? t).isSome then [] else [.allowAllNotFlag]
  | some _ => [.allowAllNotFlag]

/-- The faults of a snapshot. -/
def Snapshot.faults (s : Snapshot) : List Fault :=
  (s.sections.flatMap fun p => entryFaults p.1 p.2) ++ allowAllFaults s

end Switchboard.Settings
