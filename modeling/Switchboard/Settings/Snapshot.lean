import Switchboard.Text.Blank
import Switchboard.Toml.Document
/-
  Settings: values under a section and a key. The tenants only see a source that answers for a
  section and a key; a snapshot is the source that a document gives.
-/
namespace Switchboard.Settings

open Switchboard.Text

/-- Something that answers what the settings are. -/
structure Source where
  /-- The value under a section and a key, as a text. -/
  text? : String → String → Option String
  /-- The value under a section and a key, as a truth value. -/
  flag? : String → String → Option Bool

/-- Truth values in texts: some English words and digits, in any case, with blanks around. -/
def flagOfText? (s : String) : Option Bool :=
  let word := String.ofList (lowerAscii (trim s.toList))
  if ["true", "yes", "on", "1"].contains word then some true
  else if ["false", "no", "off", "0"].contains word then some false
  else none

/-- A document; each table at its top level is a section. -/
structure Snapshot where
  sections : Toml.Table

namespace Snapshot

/-- Reads a document. -/
def ofText? (text : String) : Option Snapshot := (Toml.ofText? text).map Snapshot.mk

/-- The value under a section and a key. -/
def value? (s : Snapshot) (sec key : String) : Option Toml.Value := do
  (← (← s.sections.find? sec).table?).find? key

/-- A single value as a text; lists, tables, dates and times have none. -/
def textOf? : Toml.Value → Option String
  | .text s => some s
  | .integer n => some (String.ofList (Decimal.writeInt n))
  | .real x => some x.text
  | .flag b => some (if b then "true" else "false")
  | _ => none

/-- A single value as a truth value; a number that is not zero counts as true. -/
def flagOf? : Toml.Value → Option Bool
  | .flag b => some b
  | .text s => flagOfText? s
  | .integer n => some (n != 0)
  | _ => none

/-- The source that a snapshot is. -/
def source (s : Snapshot) : Source where
  text? sec key := (s.value? sec key).bind textOf?
  flag? sec key := (s.value? sec key).bind flagOf?

end Snapshot

end Switchboard.Settings
