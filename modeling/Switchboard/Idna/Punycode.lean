/-
  Punycode: a label with characters beyond ASCII as one of ASCII letters, digits and hyphens. The
  characters beyond ASCII are inserted in ascending order; each insertion is written as the
  distance from the one before, in a positional system whose digit limits follow the distances.
-/
namespace Switchboard.Idna.Punycode

/-- The digit that a character stands for. -/
def digitOf? (c : Char) : Option Nat :=
  if 'a' ≤ c ∧ c ≤ 'z' then some (c.toNat - 'a'.toNat)
  else if 'A' ≤ c ∧ c ≤ 'Z' then some (c.toNat - 'A'.toNat)
  else if '0' ≤ c ∧ c ≤ '9' then some (c.toNat - '0'.toNat + 26)
  else none

/-- The character that stands for a digit. -/
def charOf (d : Nat) : Char :=
  if d < 26 then Char.ofNat ('a'.toNat + d) else Char.ofNat ('0'.toNat + (d - 26))

/-- The least digit that is followed by another, at weight position `k`. -/
def threshold (k bias : Nat) : Nat :=
  if k ≤ bias then 1 else if bias + 26 ≤ k then 26 else k - bias

theorem threshold_pos (k bias : Nat) : 0 < threshold k bias := by
  unfold threshold
  split
  · omega
  · split <;> omega

theorem threshold_le (k bias : Nat) : threshold k bias ≤ 26 := by
  unfold threshold
  split
  · omega
  · split <;> omega

/-- Scales a distance down until it is small, and counts in steps of 36. -/
def scaled (delta k : Nat) : Nat × Nat :=
  if 455 < delta then scaled (delta / 35) (k + 36) else (delta, k)
termination_by delta
decreasing_by exact Nat.div_lt_self (by omega) (by omega)

/-- The bias after an insertion into a label that has `size` characters with it. -/
def adapt (delta size : Nat) (first : Bool) : Nat :=
  let d := if first then delta / 700 else delta / 2
  let (d, k) := scaled (d + d / size) 0
  k + 36 * d / (d + 38)

/-- The digits of a distance, least first. -/
def digits (bias k delta : Nat) : List Char :=
  let t := threshold k bias
  if delta < t then [charOf delta]
  else charOf (t + (delta - t) % (36 - t)) :: digits bias (k + 36) ((delta - t) / (36 - t))
termination_by delta
decreasing_by
  have ht := threshold_pos k bias
  exact Nat.lt_of_le_of_lt (Nat.div_le_self _ _) (by omega)

/-! ## Reading -/

/-- What has been read of a label. -/
structure Decoding where
  label : List Char
  /-- The last inserted code point. -/
  point : Nat
  /-- The place of the next insertion, as far as its digits have been read. -/
  place : Nat
  /-- The place at which the reading of the digits started. -/
  start : Nat
  weight : Nat
  k : Nat
  bias : Nat

/-- The state between two insertions. -/
def Decoding.fresh (label : List Char) (point place bias : Nat) : Decoding :=
  ⟨label, point, place, place, 1, 36, bias⟩

/-- The character with a code point, if there is one. -/
def char? (n : Nat) : Option Char := if n.isValidChar then some (Char.ofNat n) else none

/-- Reads one digit; the last digit of a distance inserts a character. -/
def Decoding.step? (s : Decoding) (c : Char) : Option Decoding := do
  let d ← digitOf? c
  let place := s.place + d * s.weight
  let t := threshold s.k s.bias
  if d < t then
    let size := s.label.length + 1
    let point := s.point + place / size
    let spot := place % size
    let c ← char? point
    some (.fresh (s.label.take spot ++ c :: s.label.drop spot) point (spot + 1)
      (adapt (place - s.start) size (s.start == 0)))
  else some { s with place, weight := s.weight * (36 - t), k := s.k + 36 }

/-- Reads the digits of all insertions. -/
def Decoding.run? (s : Decoding) : List Char → Option (List Char)
  | [] => if s.k = 36 then some s.label else none
  | c :: r => do (← s.step? c).run? r

/-- Splits at the last hyphen: the ASCII characters of the label, and the digits. A hyphen at the
very start does not count. -/
def splitLast (s : List Char) : List Char × List Char :=
  let tail := (s.reverse.takeWhile (· ≠ '-')).reverse
  let head := s.take (s.length - tail.length - 1)
  if head.isEmpty then ([], s) else (head, tail)

/-- The longest text that is read. -/
def longestRead : Nat := 2000

/-- Reads a label. -/
def decode? (s : List Char) : Option (List Char) :=
  let (basic, rest) := splitLast s
  if longestRead < s.length ∨ basic.any (0x80 ≤ ·.toNat) then none
  else (Decoding.fresh basic 0x80 0 72).run? rest

/-! ## Writing -/

/-- What has been written of a label. -/
structure Encoding where
  output : List Char
  delta : Nat
  bias : Nat
  /-- How many characters have been written. -/
  done : Nat

/-- Passes a character of the label while the code point `m` is inserted. -/
def Encoding.pass (basics m : Nat) (s : Encoding) (c : Char) : Encoding :=
  if c.toNat < m then { s with delta := s.delta + 1 }
  else if c.toNat = m then
    ⟨s.output ++ digits s.bias 36 s.delta, 0, adapt s.delta (s.done + 1) (s.done == basics),
      s.done + 1⟩
  else s

/-- Inserts the code points `points`, which ascend, after all below `next`. -/
def Encoding.insertAll (label : List Char) (basics : Nat) : Encoding → Nat → List Nat → Encoding
  | s, _, [] => s
  | s, next, m :: rest =>
    let s := { s with delta := s.delta + (m - next) * (s.done + 1) }
    let s := label.foldl (Encoding.pass basics m) s
    insertAll label basics { s with delta := s.delta + 1 } (m + 1) rest

/-- Puts a number into an ascending list that has it at most once. -/
def insertPoint (n : Nat) : List Nat → List Nat
  | [] => [n]
  | m :: r => if n < m then n :: m :: r else if n = m then m :: r else m :: insertPoint n r

/-- The longest label that is written. -/
def longestWritten : Nat := 1000

/-- Writes a label. -/
def encode? (label : List Char) : Option (List Char) :=
  if longestWritten < label.length then none
  else
    let basic := label.filter (·.toNat < 0x80)
    let points := (label.filter (0x80 ≤ ·.toNat)).foldr (fun c ps => insertPoint c.toNat ps) []
    let start := if basic.isEmpty then [] else basic ++ ['-']
    let s := Encoding.insertAll label basic.length ⟨start, 0, 72, basic.length⟩ 0x80 points
    some s.output

end Switchboard.Idna.Punycode
