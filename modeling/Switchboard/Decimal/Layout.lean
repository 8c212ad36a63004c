import Switchboard.Decimal.Numeral
import Switchboard.Decimal.Shortest
/-
  The texts of floating-point numbers: which exponents are written positionally, and how a whole
  number ends. The digits are always the shortest that read back.
-/
namespace Switchboard.Decimal

/-- The choices that a format makes when it writes a number. -/
structure Layout where
  /-- Whether a number whose leading digit has this exponent is written without an exponent. -/
  positional : Int → Bool
  /-- What follows the digits of a whole number in positional form. -/
  wholeEnd : List Char

/-- Positional from `10^-5` up to below `10^16`, and whole numbers end in `.0`. -/
def Layout.json : Layout := ⟨fun e => decide (-5 ≤ e) && decide (e < 16), ['.', '0']⟩

/-- Always positional, and whole numbers have no point. -/
def Layout.plain : Layout := ⟨fun _ => true, []⟩

/-- The digits with the leading one at `10^e`, written positionally. -/
def Layout.writePositional (l : Layout) (ds : List Char) (e : Int) : List Char :=
  match e with
  | .ofNat k =>
    if ds.length ≤ k + 1 then ds ++ List.replicate (k + 1 - ds.length) '0' ++ l.wholeEnd
    else ds.take (k + 1) ++ '.' :: ds.drop (k + 1)
  | .negSucc k => '0' :: '.' :: List.replicate k '0' ++ ds

/-- The digits with one before the point, and the exponent with its sign. -/
def writeScientific (ds : List Char) (e : Int) : List Char :=
  let mark := match e with
    | .ofNat k => 'e' :: '+' :: digitsOf k
    | .negSucc k => 'e' :: '-' :: digitsOf (k + 1)
  match ds with
  | [] => mark
  | [d] => d :: mark
  | d :: r => d :: '.' :: r ++ mark

/-- The text of a number. -/
def Layout.write (l : Layout) (x : Binary64) : List Char :=
  let sign := if x.negative then ['-'] else []
  if x.isZero then sign ++ '0' :: l.wholeEnd
  else
    let (a, k) := shortest x.mantissa x.exponent
    let ds := digitsOf a
    let e := k + (ds.length : Int) - 1
    sign ++ (if l.positional e then l.writePositional ds e else writeScientific ds e)

end Switchboard.Decimal
