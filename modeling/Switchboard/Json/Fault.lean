import Switchboard.Decimal.Layout
import Switchboard.Text.Quoted
/-
  Why a JSON text cannot be read, and where. A reader that gives up names the cause and how much of
  the text it has not read; line and column follow from the whole text.
-/
namespace Switchboard.Json

/-- A kind of value that stands where another one is wanted. -/
inductive Found
  | null
  | flag (b : Bool)
  | integer (n : Int)
  | real (x : Decimal.Binary64)
  | text (s : String)
  | list
  | map
  deriving DecidableEq

/-- A line and a column; columns count the bytes after the last line feed. -/
structure Position where
  line : Nat
  column : Nat
  deriving DecidableEq, Repr

/-- What is wanted. -/
inductive Wanted
  | text
  | flag
  | list
  | map
  | record (name : String)
  /-- A string that holds the text of a value. -/
  | enclosed
  deriving DecidableEq

/-- The causes for which a text is refused. -/
inductive Cause
  | endInValue
  | endInList
  | endInObject
  | endInString
  | expectedColon
  | expectedCommaOrBracket
  | expectedCommaOrBrace
  | expectedWord
  | expectedValue
  | keyNotString
  | badEscape
  | badNumber
  | numberOutOfRange
  | loneSurrogate
  | brokenSurrogatePair
  | controlCharacter
  | trailingComma
  | trailingCharacters
  | tooDeep
  | wrongKind (found : Found) (wanted : Wanted)
  | tooShort (length : Nat) (record : String) (fields : Nat)
  | duplicateField (name : String)
  | missingField (name : String)
  | unknownVariant (name : String) (known : List String)
  /-- The text of a value that stands inside another text is refused, at its own position. -/
  | enclosed (cause : Cause) (position : Option Position)
  deriving DecidableEq

/-- The three families of causes. -/
inductive Category
  | grammar
  | ending
  | content
  deriving DecidableEq, Repr

def Cause.category : Cause → Category
  | .endInValue | .endInList | .endInObject | .endInString => .ending
  | .wrongKind .. | .tooShort .. | .duplicateField _ | .missingField _ | .unknownVariant ..
  | .enclosed .. => .content
  | _ => .grammar

/-- How a found value is described. -/
def Found.describe : Found → String
  | .null => "null"
  | .flag b => "boolean `" ++ (if b then "true" else "false") ++ "`"
  | .integer n => "integer `" ++ String.ofList (Decimal.writeInt n) ++ "`"
  | .real x => "floating point `" ++ String.ofList (Decimal.Layout.json.write x) ++ "`"
  | .text s => "string " ++ Text.quoted s
  | .list => "sequence"
  | .map => "map"

/-- How a wanted value is described. -/
def Wanted.describe : Wanted → String
  | .text => "a string"
  | .flag => "a boolean"
  | .list => "a sequence"
  | .map => "a map"
  | .record name => "struct " ++ name
  | .enclosed => "raw value"

/-- The text of a cause, without its place. -/
def Cause.message : Cause → String
  | .endInValue => "EOF while parsing a value"
  | .endInList => "EOF while parsing a list"
  | .endInObject => "EOF while parsing an object"
  | .endInString => "EOF while parsing a string"
  | .expectedColon => "expected `:`"
  | .expectedCommaOrBracket => "expected `,` or `]`"
  | .expectedCommaOrBrace => "expected `,` or `\x7d`"
  | .expectedWord => "expected ident"
  | .expectedValue => "expected value"
  | .keyNotString => "key must be a string"
  | .badEscape => "invalid escape"
  | .badNumber => "invalid number"
  | .numberOutOfRange => "number out of range"
  | .loneSurrogate => "lone leading surrogate in hex escape"
  | .brokenSurrogatePair => "unexpected end of hex escape"
  | .controlCharacter => "control character (\\u0000-\\u001F) found while parsing a string"
  | .trailingComma => "trailing comma"
  | .trailingCharacters => "trailing characters"
  | .tooDeep => "recursion limit exceeded"
  | .wrongKind found wanted => "invalid type: " ++ found.describe ++ ", expected " ++ wanted.describe
  | .tooShort length record fields =>
    "invalid length " ++ String.ofList (Decimal.digitsOf length) ++ ", expected struct " ++ record
      ++ " with " ++ String.ofList (Decimal.digitsOf fields)
      ++ (if fields = 1 then " element" else " elements")
  | .duplicateField name => "duplicate field `" ++ name ++ "`"
  | .missingField name => "missing field `" ++ name ++ "`"
  | .unknownVariant name known =>
    "unknown variant `" ++ name ++ "`, expected one of "
      ++ ", ".intercalate (known.map fun k => "`" ++ k ++ "`")
  | .enclosed cause _ => cause.message

/-- The number of bytes of a text. -/
def byteLength (s : List Char) : Nat := s.foldl (fun n c => n + c.utf8Size) 0

/-- A refusal inside a text: its cause, and the number of bytes that follow the place. -/
structure Fault where
  cause : Cause
  left : Nat
  deriving DecidableEq

/-- A refusal before the rest `s`. -/
def Fault.before (cause : Cause) (s : List Char) : Fault := ⟨cause, byteLength s⟩

/-- A refusal that counts the first byte of `s`, if there is one, as looked at. -/
def Fault.on (cause : Cause) (s : List Char) : Fault := ⟨cause, byteLength s - 1⟩

/-- The position after a number of bytes, counted on from a position. -/
def Position.advance (p : Position) : List Char → Nat → Position
  | [], _ => p
  | c :: rest, n =>
    if n < c.utf8Size then ⟨p.line, p.column + n⟩
    else if c = '\n' then advance ⟨p.line + 1, 0⟩ rest (n - 1)
    else advance ⟨p.line, p.column + c.utf8Size⟩ rest (n - c.utf8Size)

/-- The position at which `left` bytes of the text follow. -/
def Position.of (text : List Char) (left : Nat) : Position :=
  Position.advance ⟨1, 0⟩ text (byteLength text - left)

/-- A refusal as it is reported, with the position if it has one. -/
structure Refusal where
  cause : Cause
  position : Option Position
  deriving DecidableEq

/-- The refusal that a fault in a text amounts to; an enclosed text has its own positions. -/
def Fault.locate (f : Fault) (text : List Char) : Refusal :=
  match f.cause with
  | .enclosed cause position => ⟨.enclosed cause position, position⟩
  | cause => ⟨cause, some (.of text f.left)⟩

/-- The text of a refusal. -/
def Refusal.message (r : Refusal) : String :=
  match r.position with
  | none => r.cause.message
  | some p =>
    r.cause.message ++ " at line " ++ String.ofList (Decimal.digitsOf p.line) ++ " column "
      ++ String.ofList (Decimal.digitsOf p.column)

/-- What a reader does with a text: it takes a value off the front, or gives up. -/
abbrev Reader (α : Type) := List Char → Except Fault (α × List Char)

end Switchboard.Json
