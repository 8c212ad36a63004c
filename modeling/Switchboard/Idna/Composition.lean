import Switchboard.Idna.CompositionTable
import Switchboard.Text.CodePoints
/-
  The composed form of a text: characters are taken apart, marks are put in the order of their
  combining classes, and parts are put together again wherever a composed character exists. Korean
  syllables are composed by arithmetic, all other characters by table.
-/
namespace Switchboard.Idna

open Switchboard.Text

/-- A composed code point and its parts. -/
structure Composite where
  whole : Nat
  first : Nat
  second : Nat

/-- Reads a line's word. -/
def Composite.ofText (s : List Char) : Composite :=
  let (w, parts) := cut '=' s
  let (a, b) := cut '.' (parts.getD [])
  ⟨hexNumber w, hexNumber a, hexNumber (b.getD [])⟩

/-- The composed characters of the table. -/
def composites : List Composite := (tableWords compositeTable).map Composite.ofText

/-- The combining classes of the table. -/
def combiningRanges : List (CodeRange × Nat) :=
  (tableWords combiningTable).map fun s =>
    let (r, k) := cut '=' s
    (.ofText r, hexNumber (k.getD []))

/-- The combining class of a character; zero starts a new sequence. -/
def combiningClass (c : Char) : Nat :=
  if c.toNat < 0x300 then 0
  else
    match combiningRanges.find? fun p => p.1.first ≤ c.toNat && c.toNat ≤ p.1.last with
    | some (_, k) => k
    | none => 0

/-! ## Korean syllables -/

def syllableBase : Nat := 0xAC00
def leadBase : Nat := 0x1100
def vowelBase : Nat := 0x1161
def tailBase : Nat := 0x11A7
def leadCount : Nat := 19
def vowelCount : Nat := 21
def tailCount : Nat := 28
def syllableCount : Nat := leadCount * vowelCount * tailCount

/-- The parts of a syllable. -/
def syllableParts (n : Nat) : List Char :=
  let i := n - syllableBase
  let tail := i % tailCount
  Char.ofNat (leadBase + i / (vowelCount * tailCount))
    :: Char.ofNat (vowelBase + i % (vowelCount * tailCount) / tailCount)
    :: (if tail = 0 then [] else [Char.ofNat (tailBase + tail)])

/-- The syllable, or syllable with a tail, that two parts make. -/
def composeSyllable? (a b : Nat) : Option Char :=
  if leadBase ≤ a ∧ a < leadBase + leadCount ∧ vowelBase ≤ b ∧ b < vowelBase + vowelCount then
    some (Char.ofNat
      (syllableBase + ((a - leadBase) * vowelCount + (b - vowelBase)) * tailCount))
  else if syllableBase ≤ a ∧ a < syllableBase + syllableCount ∧ (a - syllableBase) % tailCount = 0
      ∧ tailBase < b ∧ b < tailBase + tailCount then
    some (Char.ofNat (a + (b - tailBase)))
  else none

/-! ## Taking apart, ordering, putting together -/

/-- The parts of a code point, taken apart at most `depth` times. -/
def partsOf : Nat → Nat → List Char
  | 0, n => [Char.ofNat n]
  | depth + 1, n =>
    match composites.find? (·.whole == n) with
    | some k => partsOf depth k.first ++ [Char.ofNat k.second]
    | none => [Char.ofNat n]

/-- A character taken apart completely. -/
def decomposeChar (c : Char) : List Char :=
  if c.toNat < 0xC0 then [c]
  else if syllableBase ≤ c.toNat ∧ c.toNat < syllableBase + syllableCount then
    syllableParts c.toNat
  else partsOf 4 c.toNat

/-- Puts a mark in front of a text, behind the marks of smaller class that start it. -/
def placeMark (c : Char) : List Char → List Char
  | [] => [c]
  | d :: r =>
    if 0 < combiningClass d ∧ combiningClass d < combiningClass c then d :: placeMark c r
    else c :: d :: r

/-- Orders the marks of each sequence by class. -/
def orderMarks : List Char → List Char
  | [] => []
  | c :: r => if combiningClass c = 0 then c :: orderMarks r else placeMark c (orderMarks r)

/-- The character that two characters make. -/
def compose? (a b : Char) : Option Char :=
  match composeSyllable? a.toNat b.toNat with
  | some c => some c
  | none =>
    (composites.find? fun k => k.first == a.toNat && k.second == b.toNat).map
      fun k => Char.ofNat k.whole

/-- Puts together the character `start`, the marks `marks` that stay behind it, and what follows. -/
def composeFrom (start : Char) (marks : List Char) : List Char → List Char
  | [] => start :: marks
  | c :: r =>
    let free := match marks.getLast? with
      | none => true
      | some m => combiningClass m < combiningClass c
    match (if free then compose? start c else none) with
    | some s => composeFrom s marks r
    | none =>
      if combiningClass c = 0 then start :: marks ++ composeFrom c [] r
      else composeFrom start (marks ++ [c]) r

/-- Puts parts together; marks before the first start of a sequence stay. -/
def composeParts : List Char → List Char
  | [] => []
  | c :: r => if combiningClass c = 0 then composeFrom c [] r else c :: composeParts r

/-- The composed form of a text. -/
def composed (s : List Char) : List Char := composeParts (orderMarks (s.flatMap decomposeChar))

end Switchboard.Idna
