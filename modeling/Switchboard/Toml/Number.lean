import Switchboard.Toml.Lexeme
import Switchboard.Toml.Value
/-
  Numbers, dates and times of a settings document.
-/
namespace Switchboard.Toml

open Switchboard.Decimal (spanSign)
open Switchboard.Text

/-- Reads a digit of a base. -/
def digit? (isDigit : Char → Bool) : Reader Char
  | c :: r => if isDigit c then some (c, r) else none
  | [] => none

/-- Reads digits of which any two may have an underscore between them; the text starts after a
digit. -/
def moreDigits (isDigit : Char → Bool) : Reader (List Char)
  | [] => some ([], [])
  | '_' :: r =>
    match r with
    | c :: r' =>
      if isDigit c then do
        let (ds, r) ← moreDigits isDigit r'
        some (c :: ds, r)
      else none
    | [] => none
  | c :: r =>
    if isDigit c then do
      let (ds, r) ← moreDigits isDigit r
      some (c :: ds, r)
    else some ([], c :: r)

/-- Reads at least one digit. -/
def digits? (isDigit : Char → Bool) : Reader (List Char) := fun s => do
  let (d, s) ← digit? isDigit s
  let (ds, s) ← moreDigits isDigit s
  some (d :: ds, s)

/-- Reads a sign and decimal digits, of which the first is no zero unless it is the only one. -/
def signedDigits? : Reader (Bool × List Char) := fun s =>
  let (negative, s) := spanSign s
  match s with
  | '0' :: r => some ((negative, ['0']), r)
  | s => (digits? Char.isDigit s).map fun (ds, r) => ((negative, ds), r)

/-- The number that digits write in a base. -/
def numberIn (base : Nat) (ds : List Char) : Nat :=
  ds.foldl (fun n c => base * n + (hexValue? c).getD 0) 0

/-- Whether a character is a digit of a base. -/
def isDigitIn (base : Nat) (c : Char) : Bool :=
  match hexValue? c with
  | some d => d < base
  | none => false

/-- An integer of 64 bits. -/
def integer64? (n : Int) : Option Int :=
  if -0x8000000000000000 ≤ n ∧ n < 0x8000000000000000 then some n else none

/-- Reads an integer in a base other than ten. -/
def basedInteger? (base : Nat) : Reader Int := fun s => do
  let (ds, s) ← digits? (isDigitIn base) s
  some (← integer64? (numberIn base ds), s)

/-- Reads an integer. -/
def integer? : Reader Int
  | '0' :: 'x' :: r => basedInteger? 16 r
  | '0' :: 'o' :: r => basedInteger? 8 r
  | '0' :: 'b' :: r => basedInteger? 2 r
  | s => do
    let ((negative, ds), s) ← signedDigits? s
    let n : Int := numberIn 10 ds
    some (← integer64? (if negative then -n else n), s)

/-- Reads an exponent, if there is one. -/
def exponent? : Reader (Option Int)
  | [] => some (none, [])
  | c :: r =>
    if c = 'e' ∨ c = 'E' then do
      let (negative, s) := spanSign r
      let (ds, s) ← digits? Char.isDigit s
      let n : Int := numberIn 10 ds
      some (some (if negative then -n else n), s)
    else some (none, c :: r)

/-- Reads the digits after a point, if there is one. -/
def fraction? : Reader (Option (List Char))
  | '.' :: r => (digits? Char.isDigit r).map fun (ds, r) => (some ds, r)
  | r => some (none, r)

/-- The number nearest to a decimal. Beyond the largest number only the negative side has a value,
minus infinity. -/
def nearestReal? (negative : Bool) (digits : Nat) (exponent : Int) : Option Real :=
  match Decimal.Binary64.ofDecimal? negative digits exponent with
  | some x => some (.finite x)
  | none => if negative then some (.infinite true) else none

/-- Reads a floating-point number with a fraction or an exponent. -/
def decimalReal? : Reader Real := fun s => do
  let ((negative, ds), s) ← signedDigits? s
  let (fraction, s) ← fraction? s
  let (exponent, s) ← exponent? s
  if fraction.isNone ∧ exponent.isNone then none
  else
    let fs := fraction.getD []
    let x ← nearestReal? negative (numberIn 10 (ds ++ fs)) (exponent.getD 0 - (fs.length : Int))
    some (x, s)

/-- Reads infinity, or the value that is no number. -/
def specialReal? : Reader Real := fun s =>
  match spanSign s with
  | (negative, 'i' :: 'n' :: 'f' :: r) => some (.infinite negative, r)
  | (_, 'n' :: 'a' :: 'n' :: r) => some (.notNumber, r)
  | _ => none

/-- Reads a floating-point number. -/
def real? : Reader Real := fun s => decimalReal? s <|> specialReal? s

/-! ## Dates and times -/

/-- Reads a number of exactly so many digits. -/
def fixedNumber? (size : Nat) : Reader Nat := fun s =>
  let ds := s.take size
  if ds.length = size ∧ ds.all Char.isDigit then some (numberIn 10 ds, s.drop size) else none

/-- Reads a given character. -/
def mark? (m : Char) : Reader Unit
  | c :: r => if c = m then some ((), r) else none
  | [] => none

/-- Whether a year has a 29th of February. -/
def isLeapYear (year : Nat) : Bool := year % 4 == 0 && (year % 100 != 0 || year % 400 == 0)

/-- The number of days of a month. -/
def daysIn (year month : Nat) : Nat :=
  if month = 2 then if isLeapYear year then 29 else 28
  else if [4, 6, 9, 11].contains month then 30 else 31

/-- Reads a date. -/
def date? : Reader Unit := fun s => do
  let (year, s) ← fixedNumber? 4 s
  let (_, s) ← mark? '-' s
  let (month, s) ← fixedNumber? 2 s
  let (_, s) ← mark? '-' s
  let (day, s) ← fixedNumber? 2 s
  if 1 ≤ month ∧ month ≤ 12 ∧ 1 ≤ day ∧ day ≤ daysIn year month then some ((), s) else none

/-- Reads the fraction of a second, if there is one. -/
def secondFraction? : Reader Unit
  | '.' :: r =>
    match r.takeWhile Char.isDigit with
    | [] => none
    | ds => some ((), r.drop ds.length)
  | r => some ((), r)

/-- Reads hours and minutes. -/
def hoursMinutes? : Reader Unit := fun s => do
  let (hour, s) ← fixedNumber? 2 s
  let (_, s) ← mark? ':' s
  let (minute, s) ← fixedNumber? 2 s
  if hour ≤ 23 ∧ minute ≤ 59 then some ((), s) else none

/-- Reads a time; a minute may have a leap second. -/
def time? : Reader Unit := fun s => do
  let (_, s) ← hoursMinutes? s
  let (_, s) ← mark? ':' s
  let (second, s) ← fixedNumber? 2 s
  if second ≤ 60 then secondFraction? s else none

/-- Reads the distance from universal time, if it is given. -/
def offset? : Reader Unit
  | [] => some ((), [])
  | c :: r =>
    if c = 'Z' ∨ c = 'z' then some ((), r)
    else if c = '+' ∨ c = '-' then hoursMinutes? r
    else some ((), c :: r)

/-- Reads the time after a date, if it is given. -/
def timeAfterDate? : Reader Unit
  | [] => some ((), [])
  | c :: r =>
    if c = 'T' ∨ c = 't' ∨ c = ' ' then
      match time? r with
      | some (_, r) => offset? r
      | none => some ((), c :: r)
    else some ((), c :: r)

/-- Reads a date, a time, or a date and a time. -/
def moment? : Reader String := fun s => do
  let rest ← match date? s with
    | some (_, r) => (timeAfterDate? r).map Prod.snd
    | none => (time? s).map Prod.snd
  some (String.ofList (s.take (s.length - rest.length)), rest)

end Switchboard.Toml
