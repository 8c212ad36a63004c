import Switchboard.Json.Quoted
import Switchboard.Json.Raw
/-
  Codecs: how the values of a type are read from a JSON text and written to one. A reader is given
  the number of brackets that may still be opened. It looks at the text from left to right and
  gives up at the first thing that does not fit.
-/
namespace Switchboard.Json

/-- A way to read and to write the values of a type. -/
structure Codec (α : Type) where
  read : Nat → Reader α
  write : α → List Char

/-- The most brackets that may be open at one place. -/
def deepest : Nat := 127

/-! ## Values of the wrong kind -/

/-- Reads the value that stands where another kind is wanted; of a list or an object only the
bracket is looked at. -/
def found : Reader Found
  | [] => .error (.before .endInValue [])
  | c :: r =>
    if c = 'n' then do .ok (.null, ← word ['u', 'l', 'l'] r)
    else if c = 't' then do .ok (.flag true, ← word ['r', 'u', 'e'] r)
    else if c = 'f' then do .ok (.flag false, ← word ['a', 'l', 's', 'e'] r)
    else if c = '-' || c.isDigit then do
      match ← number (c :: r) with
      | (.whole n, r) => .ok (.integer n, r)
      | (.real x, r) => .ok (.real x, r)
    else if c = '"' then do
      let (t, r) ← stringTail r
      .ok (.text t, r)
    else if c = '[' then .ok (.list, c :: r)
    else if c = '\x7b' then .ok (.map, c :: r)
    else .error (.on .expectedValue (c :: r))

/-- The refusal of a text that does not start with the wanted kind of value. -/
def mismatch (wanted : Wanted) (s : List Char) : Fault :=
  match found s with
  | .error f => f
  | .ok (f, r) => .before (.wrongKind f wanted) r

/-! ## Strings, flags, blobs and absent values -/

/-- Strings. -/
def Codec.text : Codec String where
  read _ s :=
    match skipBlanks s with
    | '"' :: r => stringTail r
    | s => .error (mismatch .text s)
  write := writeString

/-- The words `true` and `false`. -/
def writeFlag (b : Bool) : List Char :=
  if b then ['t', 'r', 'u', 'e'] else ['f', 'a', 'l', 's', 'e']

/-- Truth values. -/
def Codec.flag : Codec Bool where
  read _ s :=
    match skipBlanks s with
    | 't' :: r => do .ok (true, ← word ['r', 'u', 'e'] r)
    | 'f' :: r => do .ok (false, ← word ['a', 'l', 's', 'e'] r)
    | s => .error (mismatch .flag s)
  write := writeFlag

/-- Blobs, written as they were read. -/
def Codec.raw : Codec Raw where
  read _ := Json.raw
  write r := r.text.toList

/-- The word `null`. -/
def writeNull : List Char := ['n', 'u', 'l', 'l']

/-- A value or `null`. -/
def Codec.optional {α : Type} (c : Codec α) : Codec (Option α) where
  read d s :=
    match skipBlanks s with
    | 'n' :: r => do .ok (none, ← word ['u', 'l', 'l'] r)
    | s => do
      let (a, r) ← c.read d s
      .ok (some a, r)
  write
    | none => writeNull
    | some a => c.write a

/-! ## Lists -/

/-- What a list or an object goes on with. -/
inductive Step
  /-- An item or a member follows. -/
  | next (rest : List Char)
  /-- The bracket has been closed. -/
  | done (rest : List Char)

/-- Looks for the next item of a list, or its end. -/
def nextItem (first : Bool) (s : List Char) : Except Fault Step :=
  match skipBlanks s with
  | [] => .error (.before .endInList [])
  | ']' :: r => .ok (.done r)
  | c :: r =>
    if first then .ok (.next (c :: r))
    else if c = ',' then
      match skipBlanks r with
      | [] => .error (.before .endInValue [])
      | ']' :: r => .error (.on .trailingComma (']' :: r))
      | r => .ok (.next r)
    else .error (.on .expectedCommaOrBracket (c :: r))

/-- Reads the items of a list up to the closing bracket; `fuel` bounds their number. -/
def items {α : Type} (item : Reader α) : Nat → Bool → Reader (List α)
  | 0, _, _ => .error (.before .endInList [])
  | fuel + 1, first, s => do
    match ← nextItem first s with
    | .done r => .ok ([], r)
    | .next s =>
      let (a, s) ← item s
      let (as, s) ← items item fuel false s
      .ok (a :: as, s)

/-- Reads the closing bracket of a list of which nothing more is wanted. -/
def closeList (s : List Char) : Except Fault (List Char) :=
  match skipBlanks s with
  | [] => .error (.before .endInList [])
  | ']' :: r => .ok r
  | ',' :: r =>
    match skipBlanks r with
    | ']' :: r => .error (.on .trailingComma (']' :: r))
    | r => .error (.on .trailingCharacters r)
  | r => .error (.on .trailingCharacters r)

/-- Lists of values of one type. -/
def Codec.list {α : Type} (c : Codec α) : Codec (List α) where
  read d s :=
    match skipBlanks s with
    | '[' :: r =>
      match d with
      | 0 => .error (.on .tooDeep ('[' :: r))
      | d + 1 => items (c.read d) r.length true r
    | s => .error (mismatch .list s)
  write as := writeList (as.map c.write)

/-! ## Objects -/

/-- Looks for the next name of an object, whose opening quote is taken, or for its end. -/
def nextName (first : Bool) (s : List Char) : Except Fault Step :=
  match skipBlanks s with
  | [] => .error (.before .endInObject [])
  | '\x7d' :: r => .ok (.done r)
  | c :: r =>
    if first then
      if c = '"' then .ok (.next r) else .error (.on .keyNotString (c :: r))
    else if c = ',' then
      match skipBlanks r with
      | [] => .error (.before .endInValue [])
      | '"' :: r => .ok (.next r)
      | '\x7d' :: r => .error (.on .trailingComma ('\x7d' :: r))
      | r => .error (.on .keyNotString r)
    else .error (.on .expectedCommaOrBrace (c :: r))

/-- Reads the colon after a name. -/
def colon (s : List Char) : Except Fault (List Char) :=
  match skipBlanks s with
  | [] => .error (.before .endInObject [])
  | ':' :: r => .ok r
  | r => .error (.on .expectedColon r)

/-- Reads the closing brace of an object of which nothing more is wanted. -/
def closeObject (s : List Char) : Except Fault (List Char) :=
  match skipBlanks s with
  | [] => .error (.before .endInObject [])
  | '\x7d' :: r => .ok r
  | ',' :: r => .error (.on .trailingComma (',' :: r))
  | r => .error (.on .trailingCharacters r)

/-- Reads the members of an object up to the closing brace, one after the other: `member` is given
the name, what the members before have led to, and the text after the name. -/
def members {σ : Type} (member : String → σ → Reader σ) : Nat → Bool → σ → Reader σ
  | 0, _, _, _ => .error (.before .endInObject [])
  | fuel + 1, first, state, s => do
    match ← nextName first s with
    | .done r => .ok (state, r)
    | .next s =>
      let (name, s) ← stringTail s
      let (state, s) ← member name state s
      members member fuel false state s

/-! ## Whole texts -/

/-- Reads a value at the start of a text. -/
def Codec.atStart {α : Type} (c : Codec α) (text : List Char) :
    Except Refusal (α × List Char) :=
  match c.read deepest text with
  | .ok r => .ok r
  | .error f => .error (f.locate text)

/-- Refuses a text after whose value anything but blanks follows. -/
def atEnd (text rest : List Char) : Except Refusal Unit :=
  match skipBlanks rest with
  | [] => .ok ()
  | r => .error ((Fault.on .trailingCharacters r).locate text)

/-- Reads a text that holds one value. -/
def Codec.ofText {α : Type} (c : Codec α) (text : String) : Except Refusal α := do
  let (a, rest) ← c.atStart text.toList
  atEnd text.toList rest
  .ok a

/-- The text of a value. -/
def Codec.toText {α : Type} (c : Codec α) (a : α) : String := String.ofList (c.write a)

end Switchboard.Json
