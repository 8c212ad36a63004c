import Switchboard.Json.Fault
/-
  The leaves of JSON: blanks, words, strings and numbers. Each reader takes its piece off the front
  of the text or names the cause and the place of the refusal.
-/
namespace Switchboard.Json

open Switchboard.Decimal (numberOf spanDigits spanSign)
open Switchboard.Text (hexValue?)

/-- The four characters that may stand between the pieces of a JSON text. -/
def isBlank (c : Char) : Bool := c == ' ' || c == '\n' || c == '\t' || c == '\r'

/-- The text from its first character that is no blank. -/
def skipBlanks (s : List Char) : List Char := s.dropWhile isBlank

/-- Reads the given characters. -/
def word : List Char → List Char → Except Fault (List Char)
  | [], s => .ok s
  | _ :: _, [] => .error (.before .endInValue [])
  | a :: w, c :: s => if c = a then word w s else .error (.on .expectedWord (c :: s))

/-! ## Strings -/

/-- The character that a letter after a backslash stands for. -/
def escapeLetter? : Char → Option Char
  | '"' => some '"'
  | '\\' => some '\\'
  | '/' => some '/'
  | 'b' => some '\x08'
  | 'f' => some '\x0c'
  | 'n' => some '\n'
  | 'r' => some '\r'
  | 't' => some '\t'
  | _ => none

/-- The refusal of four characters that are not hexadecimal digits. -/
def fourDigitsFault (s : List Char) : Fault :=
  if byteLength s < 4 then ⟨.endInString, 0⟩ else ⟨.badEscape, byteLength s - 4⟩

/-- Reads four hexadecimal digits. -/
def fourDigits : Reader Nat
  | a :: b :: c :: d :: r =>
    match hexValue? a, hexValue? b, hexValue? c, hexValue? d with
    | some a, some b, some c, some d => .ok (((a * 16 + b) * 16 + c) * 16 + d, r)
    | _, _, _, _ => .error (fourDigitsFault (a :: b :: c :: d :: r))
  | s => .error (fourDigitsFault s)

/-- The first half of a surrogate pair. -/
def isHighSurrogate (n : Nat) : Bool := 0xD800 ≤ n && n ≤ 0xDBFF

/-- The second half of a surrogate pair. -/
def isLowSurrogate (n : Nat) : Bool := 0xDC00 ≤ n && n ≤ 0xDFFF

/-- The character that a surrogate pair stands for. -/
def ofSurrogates (high low : Nat) : Char :=
  Char.ofNat ((high - 0xD800) * 0x400 + (low - 0xDC00) + 0x10000)

/-- Reads what follows the first half of a surrogate pair, with the second half in it. -/
def surrogateTail (high : Nat) : Reader Char
  | [] => .error (.before .endInString [])
  | '\\' :: [] => .error (.before .endInString [])
  | '\\' :: 'u' :: r => do
    let (low, r) ← fourDigits r
    if isLowSurrogate low then .ok (ofSurrogates high low, r)
    else .error (.before .loneSurrogate r)
  | '\\' :: r => .error (.on .brokenSurrogatePair r)
  | r => .error (.on .brokenSurrogatePair r)

/-- Reads what follows a backslash. -/
def escape : Reader Char
  | [] => .error (.before .endInString [])
  | 'u' :: r => do
    let (n, r) ← fourDigits r
    if isLowSurrogate n then .error (.before .loneSurrogate r)
    else if isHighSurrogate n then surrogateTail n r
    else .ok (Char.ofNat n, r)
  | c :: r =>
    match escapeLetter? c with
    | some e => .ok (e, r)
    | none => .error (.on .badEscape (c :: r))

/-- Reads the characters of a string up to the closing quote; `fuel` bounds their number. -/
def stringChars : Nat → Reader (List Char)
  | 0, _ => .error (.before .endInString [])
  | _ + 1, [] => .error (.before .endInString [])
  | fuel + 1, c :: r =>
    if c = '"' then .ok ([], r)
    else if c = '\\' then do
      let (e, r) ← escape r
      let (t, r) ← stringChars fuel r
      .ok (e :: t, r)
    else if c.toNat < 0x20 then .error (.before .controlCharacter r)
    else do
      let (t, r) ← stringChars fuel r
      .ok (c :: t, r)

/-- Reads a string whose opening quote has been read. -/
def stringTail : Reader String := fun s => do
  let (t, r) ← stringChars s.length s
  .ok (String.ofList t, r)

/-! ## Numbers -/

/-- A number as it was written: whole, in the range of 64 bits, or rounded. -/
inductive Number
  | whole (n : Int)
  | real (x : Decimal.Binary64)
  deriving DecidableEq

/-- Equality as values: a whole number differs from every rounded one, the two zeros are equal. -/
def Number.same : Number → Number → Bool
  | .whole m, .whole n => m == n
  | .real x, .real y => x.same y
  | _, _ => false

/-- The text of a number. -/
def Number.write : Number → List Char
  | .whole n => Decimal.writeInt n
  | .real x => Decimal.Layout.json.write x

/-- The largest exponent that is still looked at. -/
def exponentLimit : Nat := 2147483647

/-- What follows the first digit at which the number passes the limit. -/
def afterPassing (limit acc : Nat) : List Char → Option (List Char)
  | [] => none
  | c :: r =>
    if c.isDigit then
      let acc := 10 * acc + (c.toNat - '0'.toNat)
      if limit < acc then some r else afterPassing limit acc r
    else none

/-- Reads what follows the mark of an exponent. An exponent beyond the limit is refused at the digit
that passes it, unless the number is zero or becomes zero. -/
def exponentPart (isZero : Bool) : Reader Int := fun s =>
  let (negative, s) := spanSign s
  match s with
  | [] => .error (.before .endInValue [])
  | c :: _ =>
    if !c.isDigit then .error (.on .badNumber s)
    else
      let (ds, r) := spanDigits s
      match afterPassing exponentLimit 0 s with
      | some passed =>
        if !isZero && !negative then .error (.before .numberOutOfRange passed)
        else .ok (if negative then -(numberOf ds : Int) else 0, r)
      | none => .ok (if negative then -(numberOf ds : Int) else (numberOf ds : Int), r)

/-- Reads the exponent if there is one. -/
def exponent? (isZero : Bool) : Reader (Option Int)
  | [] => .ok (none, [])
  | c :: r =>
    if c = 'e' ∨ c = 'E' then do
      let (e, r) ← exponentPart isZero r
      .ok (some e, r)
    else .ok (none, c :: r)

/-- Reads the digits after the point, if there is a point. -/
def fraction? : Reader (Option (List Char))
  | '.' :: r =>
    match spanDigits r with
    | ([], []) => .error (.before .endInValue [])
    | ([], r) => .error (.on .badNumber r)
    | (ds, r) => .ok (some ds, r)
  | r => .ok (none, r)

/-- The number nearest to a decimal, refused before `rest` if it is too large. -/
def rounded (negative : Bool) (digits : Nat) (exponent : Int) (rest : List Char) :
    Except Fault (Number × List Char) :=
  match Decimal.Binary64.ofDecimal? negative digits exponent with
  | some x => .ok (.real x, rest)
  | none => .error (.before .numberOutOfRange rest)

/-- A number without point and exponent: whole if it fits 64 bits, else rounded; minus zero is no
whole number. -/
def wholeOrRounded (negative : Bool) (n : Nat) (rest : List Char) :
    Except Fault (Number × List Char) :=
  if negative then
    if n ≠ 0 ∧ n ≤ 0x8000000000000000 then .ok (.whole (-(n : Int)), rest)
    else rounded true n 0 rest
  else if n < 0x10000000000000000 then .ok (.whole n, rest)
  else rounded false n 0 rest

/-- Reads what follows the digits before the point. -/
def numberTail (negative : Bool) (ds : List Char) : Reader Number := fun s => do
  let (fraction, s) ← fraction? s
  let digits := numberOf (ds ++ fraction.getD [])
  let (exponent, s) ← exponent? (digits == 0) s
  match fraction, exponent with
  | none, none => wholeOrRounded negative digits s
  | _, _ =>
    rounded negative digits (exponent.getD 0 - ((fraction.getD []).length : Int)) s

/-- Reads a number whose minus sign, if any, has been read. -/
def unsigned (negative : Bool) : Reader Number
  | [] => .error (.before .endInValue [])
  | '0' :: r =>
    match r with
    | d :: _ => if d.isDigit then .error (.on .badNumber r) else numberTail negative ['0'] r
    | [] => numberTail negative ['0'] r
  | c :: r =>
    if c.isDigit then
      let (ds, r) := spanDigits (c :: r)
      numberTail negative ds r
    else .error (.on .badNumber (c :: r))

/-- Reads a number; the text starts with a minus sign or a digit. -/
def number : Reader Number
  | '-' :: r => unsigned true r
  | r => unsigned false r

end Switchboard.Json
