import Switchboard.Decimal.Binary64
/-
  The shortest decimal that reads back as a given floating-point number. The decimals that read
  back form an interval around the number; on the grid of `n` significant digits the number has
  two neighbours, and the first `n` for which one of them lies in the interval gives the digits.
-/
namespace Switchboard.Decimal

/-- A positive number `num / den`, with the ends of the interval of decimals that round to it. -/
structure Interval where
  num : Nat
  den : Nat
  low : Nat
  high : Nat
  /-- Whether the ends, `low / (4 * den)` and `high / (4 * den)`, belong to the interval. -/
  closed : Bool

/-- The interval of the number `m · 2^q`. Below a power of two the gap to the next number is half
as wide; the ends round to the number iff its mantissa is even. -/
def Interval.ofParts (m : Nat) (q : Int) : Interval :=
  let narrow := m = Nat.pow 2 52 ∧ Binary64.leastExponent < q
  let (num, den, ulp) : Nat × Nat × Nat :=
    match q with
    | .ofNat k => (m * Nat.pow 2 k, 1, Nat.pow 2 k)
    | .negSucc k => (m, Nat.pow 2 (k + 1), 1)
  ⟨num, den, 4 * num - (if narrow then ulp else 2 * ulp), 4 * num + 2 * ulp, m % 2 = 0⟩

/-- The decimal `a · 10^k` as a fraction. -/
def decimalFraction (a : Nat) (k : Int) : Nat × Nat :=
  match k with
  | .ofNat j => (a * Nat.pow 10 j, 1)
  | .negSucc j => (a, Nat.pow 10 (j + 1))

/-- Whether `a · 10^k` lies in the interval. -/
def Interval.holds (i : Interval) (a : Nat) (k : Int) : Bool :=
  let (n, d) := decimalFraction a k
  let value := 4 * n * i.den
  if i.closed then decide (i.low * d ≤ value) && decide (value ≤ i.high * d)
  else decide (i.low * d < value) && decide (value < i.high * d)

/-- The exponent of the leading decimal digit. -/
def Interval.leadingExponent (i : Interval) : Int :=
  let digits := (Nat.toDigits 10 (i.num * Nat.pow 10 400 / i.den)).length
  (digits : Int) - 401

/-- The neighbour of the number on the grid of multiples of `10^k`, if one lies in the interval;
of two the nearer, and at equal distance the even one. -/
def Interval.onGrid? (i : Interval) (k : Int) : Option Nat :=
  let (n, d) := decimalFraction 1 k
  let a := i.num * d / (i.den * n)
  match i.holds a k, i.holds (a + 1) k with
  | true, false => some a
  | false, true => some (a + 1)
  | false, false => none
  | true, true =>
    let twice := 2 * i.num * d
    let middle := (2 * a + 1) * i.den * n
    if twice < middle then some a
    else if middle < twice then some (a + 1)
    else if a % 2 = 0 then some a else some (a + 1)

/-- Drops the zeros at the end of the digits of a number and counts them. -/
def dropZeros : Nat → Nat → Nat → Nat × Nat
  | 0, a, count => (a, count)
  | fuel + 1, a, count =>
    if a % 10 = 0 ∧ a ≠ 0 then dropZeros fuel (a / 10) (count + 1) else (a, count)

/-- The shortest decimal `a · 10^k` that reads back as `m · 2^q`, without zeros at the end of `a`;
seventeen digits always suffice. -/
def shortest (m : Nat) (q : Int) : Nat × Int :=
  let i := Interval.ofParts m q
  let lead := i.leadingExponent
  let found := (List.range 17).findSome? fun (n : Nat) =>
    (i.onGrid? (lead - (n : Int))).map fun a => (a, lead - (n : Int))
  match found with
  | some (a, k) =>
    let (a, zeros) := dropZeros 20 a 0
    (a, k + zeros)
  | none => (0, 0)

end Switchboard.Decimal
