/-
  Floating-point numbers of 53 significant bits as exact data, and the number nearest to a
  decimal. A finite number is `± mantissa · 2^exponent`; the mantissa is below `2^53`, and below
  `2^52` only at the smallest exponent, so that each number but zero has one form.
-/
namespace Switchboard.Decimal

/-- A finite number `± mantissa · 2^exponent`. -/
structure Binary64 where
  negative : Bool
  mantissa : Nat
  exponent : Int
  deriving DecidableEq, Repr

/-- The smallest exponent of a number. -/
def Binary64.leastExponent : Int := -1074

/-- The largest exponent of a number. -/
def Binary64.greatestExponent : Int := 971

/-- Zero, with its sign. -/
def Binary64.zero (negative : Bool) : Binary64 := ⟨negative, 0, Binary64.leastExponent⟩

def Binary64.isZero (x : Binary64) : Bool := x.mantissa == 0

/-- Equality as numbers: the two zeros are equal. -/
def Binary64.same (x y : Binary64) : Bool := (x.isZero && y.isZero) || x == y

/-- The whole number nearest to `num / den`; a half goes to the even neighbour. -/
def roundHalfEven (num den : Nat) : Nat :=
  let q := num / den
  let r := num % den
  if 2 * r < den then q
  else if den < 2 * r then q + 1
  else if q % 2 = 0 then q else q + 1

/-- The fraction `num / den` divided by `2^e`, as a fraction. -/
def scaleDown (num den : Nat) (e : Int) : Nat × Nat :=
  match e with
  | .ofNat k => (num, den * Nat.pow 2 k)
  | .negSucc k => (num * Nat.pow 2 (k + 1), den)

/-- The exponent at which the quotient of a positive fraction has 53 bits before the point, or the
smallest exponent if that is larger. -/
def exponentOf (num den : Nat) : Int :=
  let guess : Int := (num.log2 : Int) - (den.log2 : Int) - 53
  let (n, d) := scaleDown num den guess
  max (if n / d < Nat.pow 2 53 then guess else guess + 1) Binary64.leastExponent

/-- The number nearest to `± num / den`, or `none` beyond the largest number. -/
def Binary64.ofFraction? (negative : Bool) (num den : Nat) : Option Binary64 :=
  if num = 0 then some (.zero negative)
  else
    let e := exponentOf num den
    let (n, d) := scaleDown num den e
    let m := roundHalfEven n d
    let (m, e) := if m = Nat.pow 2 53 then (Nat.pow 2 52, e + 1) else (m, e)
    if Binary64.greatestExponent < e then none else some ⟨negative, m, e⟩

/-- The number nearest to `± digits · 10^exponent`, or `none` beyond the largest number. Exponents
far outside the range of the numbers are settled before any power of ten is computed. -/
def Binary64.ofDecimal? (negative : Bool) (digits : Nat) (exponent : Int) : Option Binary64 :=
  if digits = 0 then some (.zero negative)
  else
    let size : Int := ((Nat.toDigits 10 digits).length : Int) + exponent
    if 320 < size then none
    else if size < -340 then some (.zero negative)
    else
      match exponent with
      | .ofNat k => Binary64.ofFraction? negative (digits * Nat.pow 10 k) 1
      | .negSucc k => Binary64.ofFraction? negative digits (Nat.pow 10 (k + 1))

end Switchboard.Decimal
