import Switchboard.Text.Blank
/-
  Sets of characters given by ranges of code points. A table is written as lines of ranges
  `first-last` in hexadecimal, a single code point standing for the range of itself.
-/
namespace Switchboard.Text

/-- The value of a hexadecimal digit. -/
def hexValue? (c : Char) : Option Nat :=
  if '0' ≤ c ∧ c ≤ '9' then some (c.toNat - '0'.toNat)
  else if 'a' ≤ c ∧ c ≤ 'f' then some (c.toNat - 'a'.toNat + 10)
  else if 'A' ≤ c ∧ c ≤ 'F' then some (c.toNat - 'A'.toNat + 10)
  else none

/-- The number that hexadecimal digits write; other characters count as zero. -/
def hexNumber (s : List Char) : Nat :=
  s.foldl (fun n c => 16 * n + (hexValue? c).getD 0) 0

/-- The lower-case hexadecimal digits of a number. -/
def hexDigits (n : Nat) : List Char := Nat.toDigits 16 n

/-- Splits at the first occurrence of a separator, which is dropped. -/
def cut (separator : Char) : List Char → List Char × Option (List Char)
  | [] => ([], none)
  | c :: r =>
    if c = separator then ([], some r)
    else
      let (a, b) := cut separator r
      (c :: a, b)

/-- A range of code points, with both ends. -/
structure CodeRange where
  first : Nat
  last : Nat

/-- Reads `first-last`, or a single code point. -/
def CodeRange.ofText (s : List Char) : CodeRange :=
  match cut '-' s with
  | (a, none) => ⟨hexNumber a, hexNumber a⟩
  | (a, some b) => ⟨hexNumber a, hexNumber b⟩

/-- The words of a table's lines. -/
def tableWords (lines : List String) : List (List Char) :=
  lines.flatMap fun line => pieces ' ' line.toList

/-- The ranges of a table. -/
def codeRanges (lines : List String) : List CodeRange :=
  (tableWords lines).map CodeRange.ofText

/-- Whether a character lies in one of the ranges. -/
def inRanges (ranges : List CodeRange) (c : Char) : Bool :=
  ranges.any fun r => r.first ≤ c.toNat && c.toNat ≤ r.last

end Switchboard.Text
