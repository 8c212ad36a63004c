import Switchboard.Json.Lexeme
/-
  Strings as they are written: quotes around, an escape for a quote, a backslash or a control
  character, and every other character as itself.
-/
namespace Switchboard.Json

open Switchboard.Text (hexDigits)

/-- A control character as four hexadecimal digits. -/
def controlEscape (c : Char) : List Char :=
  let ds := hexDigits c.toNat
  '\\' :: 'u' :: List.replicate (4 - ds.length) '0' ++ ds

/-- What stands for a character inside a string. -/
def writeChar (c : Char) : List Char :=
  if c = '"' then ['\\', '"']
  else if c = '\\' then ['\\', '\\']
  else if c = '\x08' then ['\\', 'b']
  else if c = '\x0c' then ['\\', 'f']
  else if c = '\n' then ['\\', 'n']
  else if c = '\r' then ['\\', 'r']
  else if c = '\t' then ['\\', 't']
  else if c.toNat < 0x20 then controlEscape c
  else [c]

/-- A string between its quotes. -/
def writeString (s : String) : List Char := '"' :: s.toList.flatMap writeChar ++ ['"']

/-- The pieces with commas between them. -/
def joined : List (List Char) → List Char
  | [] => []
  | [p] => p
  | p :: q :: rest => p ++ ',' :: joined (q :: rest)

/-- A member of an object. -/
def writeMember (name : String) (value : List Char) : List Char := writeString name ++ ':' :: value

/-- A list of written values. -/
def writeList (values : List (List Char)) : List Char := '[' :: joined values ++ [']']

/-- An object of written members. -/
def writeObject (members : List (List Char)) : List Char := '\x7b' :: joined members ++ ['\x7d']

end Switchboard.Json
