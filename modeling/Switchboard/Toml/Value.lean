import Switchboard.Decimal.Layout
import Switchboard.Directory
/-
  The values of a settings document.
-/
namespace Switchboard.Toml

/-- A floating-point value. -/
inductive Real
  | finite (x : Decimal.Binary64)
  | infinite (negative : Bool)
  | notNumber
  deriving DecidableEq

/-- A value. Tables are directories. -/
inductive Value
  | text (s : String)
  | integer (n : Int)
  | real (x : Real)
  | flag (b : Bool)
  /-- A date, a time, or both, as written. -/
  | moment (written : String)
  | list (items : List Value)
  | table (entries : List (String × Value))

/-- A table of values. -/
abbrev Table := Directory Value

/-- The kinds of values. -/
inductive Kind
  | text
  | integer
  | real
  | flag
  | moment
  | list
  | table
  deriving DecidableEq, Repr

/-- The kind of a value. -/
def Value.kind : Value → Kind
  | .text _ => .text
  | .integer _ => .integer
  | .real _ => .real
  | .flag _ => .flag
  | .moment _ => .moment
  | .list _ => .list
  | .table _ => .table

/-- The table that a value is, if it is one. -/
def Value.table? : Value → Option Table
  | .table t => some t
  | _ => none

/-- The text of a floating-point value, never with an exponent. -/
def Real.text : Real → String
  | .finite x => String.ofList (Decimal.Layout.plain.write x)
  | .infinite false => "inf"
  | .infinite true => "-inf"
  | .notNumber => "NaN"

end Switchboard.Toml
