import Switchboard.Inbound.Frame
import Switchboard.Json.Value
/-
  Problems: what a client is told when something went wrong.
-/
namespace Switchboard.Outbound

open Switchboard.Json

/-- A problem, with a code for programs, a text for people, and further details. -/
structure Problem where
  code : String
  message : String
  details : Option Value
  deriving DecidableEq

def Problem.record : Record Problem where
  name := "Error"
  types := [String, String, Option Value]
  fields := .cons (.required "code" .text) (.cons (.required "message" .text)
    (.cons (.optional "details" .value) .nil))
  make := fun (code, message, details, ()) => ⟨code, message, details⟩
  parts p := (p.code, p.message, p.details, ())

/-- A problem without details. -/
def Problem.plain (code message : String) : Problem := ⟨code, message, none⟩

/-- The problem that something failed inside. -/
def Problem.internal (message : String) : Problem := .plain "internal_error" message

/-- The problem that a text could not be read at all. -/
def Problem.invalidFormat : Problem := .plain "invalid_format" "Invalid data format."

/-- The problem that a request broke a rule. -/
def Problem.ofViolation (v : Inbound.Violation) : Problem := .plain v.code v.message

/-- Equality of problems; details are compared as values. -/
def Problem.same (p q : Problem) : Bool :=
  p.code == q.code && p.message == q.message
    && match p.details, q.details with
      | none, none => true
      | some v, some w => v.same w
      | _, _ => false

end Switchboard.Outbound
