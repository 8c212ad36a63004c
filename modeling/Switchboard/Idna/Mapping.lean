import Switchboard.Idna.MappingTable
import Switchboard.Text.CodePoints
/-
  The mapping of characters in host names: case and width are evened out, some characters vanish,
  and some are refused.
-/
namespace Switchboard.Idna

open Switchboard.Text

/-- How the code points of a range are mapped. -/
inductive Rule
  /-- To the range that starts at `target`. -/
  | shift (target : Nat)
  /-- Every second code point, to the one at the same distance from `target`. -/
  | alternate (target : Nat)
  /-- All to the same characters. -/
  | constant (targets : List Nat)

/-- A range of code points with its rule. -/
structure Mapped where
  range : CodeRange
  rule : Rule

/-- Reads a line's word. -/
def Mapped.ofText? (s : List Char) : Option Mapped :=
  match cut '>' s, cut '/' s, cut '=' s with
  | (r, some t), _, _ => some ⟨.ofText r, .shift (hexNumber t)⟩
  | _, (r, some t), _ => some ⟨.ofText r, .alternate (hexNumber t)⟩
  | _, _, (r, some []) => some ⟨.ofText r, .constant []⟩
  | _, _, (r, some ts) => some ⟨.ofText r, .constant ((pieces '.' ts).map hexNumber)⟩
  | _, _, _ => none

/-- The ranges of the refused characters. -/
def refusedRanges : List CodeRange := codeRanges refusedTable

/-- The rules of the mapped characters. -/
def mappedRanges : List Mapped := (tableWords mappingTable).filterMap Mapped.ofText?

/-- What a range's rule makes of a code point, if it applies. -/
def Mapped.image? (m : Mapped) (n : Nat) : Option (List Nat) :=
  if n < m.range.first ∨ m.range.last < n then none
  else
    match m.rule with
    | .shift target => some [target + (n - m.range.first)]
    | .alternate target =>
      if (n - m.range.first) % 2 = 0 then some [target + (n - m.range.first)] else none
    | .constant targets => some targets

/-- What a character turns into; `none` if it is refused. -/
def mapChar? (c : Char) : Option (List Char) :=
  if c.toNat < 0x80 then some [c.toLower]
  else if inRanges refusedRanges c then none
  else
    match mappedRanges.findSome? (·.image? c.toNat) with
    | some ns => some (ns.map Char.ofNat)
    | none => some [c]

/-- Maps every character of a name; `none` if one of them is refused. -/
def mapName? (s : List Char) : Option (List Char) :=
  match s with
  | [] => some []
  | c :: r => do
    let a ← mapChar? c
    let b ← mapName? r
    some (a ++ b)

end Switchboard.Idna
