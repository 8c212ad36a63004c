import Switchboard.Settings.Fault
/-
  Loading settings from a file.
-/
namespace Switchboard.Settings

/-- What is found where the settings should be. -/
inductive File
  | missing
  | bytes (content : ByteArray)

/-- Why a file gives no settings. -/
inductive LoadError
  | missing
  | notText
  | unreadable
  | faulty (faults : List Fault)
  deriving DecidableEq, Repr

/-- The text of the faults of a file. -/
def faultsMessage (faults : List Fault) : String :=
  "Validation failed: " ++ ", ".intercalate (faults.map Fault.message)

/-- Reads the text of settings and checks it. -/
def Snapshot.load (text : String) : Except LoadError Snapshot :=
  match Snapshot.ofText? text with
  | none => .error .unreadable
  | some s => if s.faults.isEmpty then .ok s else .error (.faulty s.faults)

/-- Loads the settings from a file. -/
def File.load : File → Except LoadError Snapshot
  | .missing => .error .missing
  | .bytes content =>
    match String.fromUTF8? content with
    | none => .error .notText
    | some text => Snapshot.load text

end Switchboard.Settings
