import Switchboard.Json.Lexeme
/-
  Values that are passed over without being looked at: members that nobody asked for, and blobs that
  are kept as text. Only their grammar is checked: there is no limit on nesting or range, and a
  surrogate may stand alone.
-/
namespace Switchboard.Json

open Switchboard.Decimal (spanDigits spanSign)

/-- A JSON value kept as it was written, without blanks around it. -/
structure Raw where
  text : String
  deriving DecidableEq, Repr

/-- Passes over what follows a backslash in a string. -/
def passEscape : List Char → Except Fault (List Char)
  | [] => .error (.before .endInString [])
  | 'u' :: r => do
    let (_, r) ← fourDigits r
    .ok r
  | c :: r =>
    match escapeLetter? c with
    | some _ => .ok r
    | none => .error (.on .badEscape (c :: r))

/-- Passes over the characters of a string; `fuel` bounds their number. -/
def passChars : Nat → List Char → Except Fault (List Char)
  | 0, _ => .error (.before .endInString [])
  | _ + 1, [] => .error (.before .endInString [])
  | fuel + 1, c :: r =>
    if c = '"' then .ok r
    else if c = '\\' then do passChars fuel (← passEscape r)
    else if c.toNat < 0x20 then .error (.before .controlCharacter (c :: r))
    else passChars fuel r

/-- Passes over a string whose opening quote has been read. -/
def passString (s : List Char) : Except Fault (List Char) := passChars s.length s

/-- Passes over the exponent of a number, after its mark. -/
def passExponent (s : List Char) : Except Fault (List Char) :=
  let (_, s) := spanSign s
  match s with
  | [] => .error (.before .badNumber [])
  | c :: r => if c.isDigit then .ok (spanDigits r).2 else .error (.on .badNumber (c :: r))

/-- Passes over an exponent if there is one. -/
def passExponent? : List Char → Except Fault (List Char)
  | [] => .ok []
  | c :: r => if c = 'e' ∨ c = 'E' then passExponent r else .ok (c :: r)

/-- Passes over what follows the digits before the point. -/
def passFraction? : List Char → Except Fault (List Char)
  | '.' :: r =>
    match spanDigits r with
    | ([], r) => .error (.on .badNumber r)
    | (_, r) => passExponent? r
  | r => passExponent? r

/-- Passes over a number whose minus sign, if any, has been read. -/
def passNumber : List Char → Except Fault (List Char)
  | [] => .error (.before .badNumber [])
  | '0' :: r =>
    match r with
    | d :: _ => if d.isDigit then .error (.on .badNumber r) else passFraction? r
    | [] => .ok []
  | c :: r => if c.isDigit then passFraction? (spanDigits r).2 else .error (.on .badNumber (c :: r))

/-- The bracket that closes a list or an object, and the refusals of what stands in its place. -/
structure Closing where
  bracket : Char
  ending : Cause
  expected : Cause

/-- The end of a list. -/
def Closing.list : Closing := ⟨']', .endInList, .expectedCommaOrBracket⟩

/-- The end of an object. -/
def Closing.object : Closing := ⟨'\x7d', .endInObject, .expectedCommaOrBrace⟩

/-- Passes over the rest of a list or an object, of which at least one item has been read. -/
def passItems (close : Closing) (item : List Char → Except Fault (List Char)) :
    Nat → List Char → Except Fault (List Char)
  | 0, _ => .error (.before close.ending [])
  | fuel + 1, s =>
    match skipBlanks s with
    | [] => .error (.before close.ending [])
    | c :: r =>
      if c = close.bracket then .ok r
      else if c = ',' then do passItems close item fuel (← item r)
      else .error (.on close.expected (c :: r))

/-- Passes over a list or an object whose opening bracket has been read. -/
def passAll (close : Closing) (item : List Char → Except Fault (List Char)) (s : List Char) :
    Except Fault (List Char) :=
  match skipBlanks s with
  | [] => .error (.before close.ending [])
  | c :: r =>
    if c = close.bracket then .ok r else do passItems close item s.length (← item (c :: r))

/-- Passes over the name of a member, the colon and the value. -/
def passMember (value : List Char → Except Fault (List Char)) (s : List Char) :
    Except Fault (List Char) :=
  match skipBlanks s with
  | [] => .error (.before .endInObject [])
  | c :: r =>
    if c = '"' then do
      let r ← passString r
      match skipBlanks r with
      | [] => .error (.before .endInObject [])
      | c :: r => if c = ':' then value r else .error (.on .expectedColon (c :: r))
    else .error (.on .keyNotString (c :: r))

/-- Passes over a value without blanks before it; `inner` passes over the values in it. -/
def passFrom (inner : List Char → Except Fault (List Char)) : List Char → Except Fault (List Char)
  | [] => .error (.before .endInValue [])
  | c :: r =>
    if c = 'n' then word ['u', 'l', 'l'] r
    else if c = 't' then word ['r', 'u', 'e'] r
    else if c = 'f' then word ['a', 'l', 's', 'e'] r
    else if c = '-' then passNumber r
    else if c.isDigit then passNumber (c :: r)
    else if c = '"' then passString r
    else if c = '[' then passAll .list inner r
    else if c = '\x7b' then passAll .object (passMember inner) r
    else .error (.on .expectedValue (c :: r))

/-- Passes over a value, nested at most `fuel` deep. -/
def passValue : Nat → List Char → Except Fault (List Char)
  | 0, _ => .error (.before .endInValue [])
  | fuel + 1, s => passFrom (passValue fuel) (skipBlanks s)

/-- Passes over a value; no text nests deeper than it is long. -/
def pass (s : List Char) : Except Fault (List Char) := passValue (s.length + 1) s

/-- Reads a value as a blob: the text from its first character to its last. -/
def raw : Reader Raw := fun s => do
  let start := skipBlanks s
  let rest ← pass start
  .ok (⟨String.ofList (start.take (start.length - rest.length))⟩, rest)

end Switchboard.Json
