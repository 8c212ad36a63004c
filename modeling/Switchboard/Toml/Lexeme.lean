import Switchboard.Text.CodePoints
/-
  The leaves of a settings document: blanks, comments, line ends, strings and keys. A reader takes
  its piece off the front of the text or finds that there is none.
-/
namespace Switchboard.Toml

open Switchboard.Text

/-- A reader of a piece of the text. -/
abbrev Reader (α : Type) := List Char → Option (α × List Char)

/-! ## Blanks, comments, line ends -/

def isBlank (c : Char) : Bool := c == ' ' || c == '\t'

/-- Drops blanks. -/
def skipBlanks (s : List Char) : List Char := s.dropWhile isBlank

/-- What may stand in a comment: everything but controls, of which the tab is allowed. -/
def isCommentChar (c : Char) : Bool := c == '\t' || (0x20 ≤ c.toNat && c.toNat != 0x7F)

/-- Splits off the end of a line. -/
def lineEnd? : List Char → Option (List Char)
  | '\n' :: r => some r
  | '\r' :: '\n' :: r => some r
  | _ => none

/-- Drops a comment, if there is one. -/
def skipComment : List Char → List Char
  | '#' :: r => r.dropWhile isCommentChar
  | r => r

/-- Reads blanks, a comment and the end of a line or of the text. -/
def restOfLine? (s : List Char) : Option (List Char) :=
  match skipComment (skipBlanks s) with
  | [] => some []
  | r => lineEnd? r

/-- Drops blanks and line ends. -/
def skipLines : List Char → List Char
  | [] => []
  | c :: r =>
    if isBlank c || c == '\n' then skipLines r
    else if c = '\r' then
      match r with
      | '\n' :: r' => skipLines r'
      | _ => c :: r
    else c :: r

/-- Drops blanks, line ends and comments. A comment has to be closed by a line end; `inComment`
tells whether one is open. -/
def skipTrivia (inComment : Bool) : List Char → List Char
  | [] => []
  | c :: r =>
    if c = '\n' then skipTrivia false r
    else if c = '\r' then
      match r with
      | '\n' :: r' => skipTrivia false r'
      | _ => c :: r
    else if inComment then if isCommentChar c then skipTrivia true r else c :: r
    else if isBlank c then skipTrivia false r
    else if c = '#' then skipTrivia true r
    else c :: r

/-! ## Strings -/

/-- What may stand in a string: everything but controls, of which the tab is allowed. -/
def isStringChar (c : Char) : Bool := isCommentChar c

/-- The character with a code point in the given number of hexadecimal digits. -/
def codePoint? (digits : Nat) : Reader Char := fun s =>
  let ds := s.take digits
  let n := hexNumber ds
  if ds.length = digits ∧ ds.all (fun c => (hexValue? c).isSome) ∧ n.isValidChar then
    some (Char.ofNat n, s.drop digits)
  else none

/-- Reads what follows a backslash. -/
def escape? : Reader Char
  | 'b' :: r => some ('\x08', r)
  | 't' :: r => some ('\t', r)
  | 'n' :: r => some ('\n', r)
  | 'f' :: r => some ('\x0c', r)
  | 'r' :: r => some ('\r', r)
  | '"' :: r => some ('"', r)
  | '\\' :: r => some ('\\', r)
  | 'u' :: r => codePoint? 4 r
  | 'U' :: r => codePoint? 8 r
  | _ => none

/-- Reads a string on one line up to its closing quote; `fuel` bounds its length. -/
def basicChars : Nat → Reader (List Char)
  | 0, _ => none
  | _ + 1, [] => none
  | fuel + 1, c :: r =>
    if c = '"' then some ([], r)
    else if c = '\\' then do
      let (e, r) ← escape? r
      let (t, r) ← basicChars fuel r
      some (e :: t, r)
    else if isStringChar c then do
      let (t, r) ← basicChars fuel r
      some (c :: t, r)
    else none

/-- Reads a literal string on one line up to its closing quote. -/
def literalChars : Reader (List Char)
  | [] => none
  | c :: r =>
    if c = '\'' then some ([], r)
    else if isStringChar c then do
      let (t, r) ← literalChars r
      some (c :: t, r)
    else none

/-- Splits off a run of a quote: what of it belongs to the string, and the rest if the run closes the
string. Three quotes close it; up to two more before them belong to it. -/
def quoteRun (q : Char) (s : List Char) : List Char × Bool × List Char :=
  let run := s.takeWhile (· == q)
  if run.length < 3 then (run, false, s.drop run.length)
  else
    let own := min (run.length - 3) 2
    (run.take own, true, s.drop (own + 3))

/-- Reads a string on several lines up to its closing quotes; `fuel` bounds its length. -/
def longBasicChars : Nat → Reader (List Char)
  | 0, _ => none
  | _ + 1, [] => none
  | fuel + 1, c :: r =>
    if c = '"' then
      match quoteRun '"' (c :: r) with
      | (own, true, r) => some (own, r)
      | (own, false, r) => do
        let (t, r) ← longBasicChars fuel r
        some (own ++ t, r)
    else if c = '\\' then
      match lineEnd? (skipBlanks r) with
      | some r => longBasicChars fuel (skipLines r)
      | none => do
        let (e, r) ← escape? r
        let (t, r) ← longBasicChars fuel r
        some (e :: t, r)
    else
      match lineEnd? (c :: r) with
      | some r => do
        let (t, r) ← longBasicChars fuel r
        some ('\n' :: t, r)
      | none =>
        if isStringChar c then do
          let (t, r) ← longBasicChars fuel r
          some (c :: t, r)
        else none

/-- Reads a literal string on several lines up to its closing quotes; `fuel` bounds its length. -/
def longLiteralChars : Nat → Reader (List Char)
  | 0, _ => none
  | _ + 1, [] => none
  | fuel + 1, c :: r =>
    if c = '\'' then
      match quoteRun '\'' (c :: r) with
      | (own, true, r) => some (own, r)
      | (own, false, r) => do
        let (t, r) ← longLiteralChars fuel r
        some (own ++ t, r)
    else
      match lineEnd? (c :: r) with
      | some r => do
        let (t, r) ← longLiteralChars fuel r
        some ('\n' :: t, r)
      | none =>
        if isStringChar c then do
          let (t, r) ← longLiteralChars fuel r
          some (c :: t, r)
        else none

/-- Drops a line end right after the opening quotes. -/
def skipFirstLineEnd (s : List Char) : List Char := (lineEnd? s).getD s

/-- Reads a string on one line. -/
def shortString? : Reader (List Char)
  | '"' :: r => basicChars r.length r
  | '\'' :: r => literalChars r
  | _ => none

/-- Reads a string. -/
def string? : Reader (List Char)
  | '"' :: '"' :: '"' :: r => longBasicChars r.length (skipFirstLineEnd r)
  | '\'' :: '\'' :: '\'' :: r => longLiteralChars r.length (skipFirstLineEnd r)
  | s => shortString? s

/-! ## Keys -/

/-- What may stand in a key without quotes. -/
def isBareChar (c : Char) : Bool := c.isAlphanum || c == '_' || c == '-'

/-- Reads a key without points. -/
def simpleKey? : Reader String
  | [] => none
  | c :: r =>
    if c = '"' ∨ c = '\'' then (shortString? (c :: r)).map fun (k, r) => (String.ofList k, r)
    else if isBareChar c then
      some (String.ofList (c :: r.takeWhile isBareChar), r.dropWhile isBareChar)
    else none

/-- The most parts that a key may have. -/
def mostKeyParts : Nat := 79

/-- Reads the parts of a key between points, with blanks around them; there are at most `fuel`. -/
def keyParts? : Nat → Reader (List String)
  | 0, _ => none
  | fuel + 1, s => do
    let (k, s) ← simpleKey? (skipBlanks s)
    match skipBlanks s with
    | '.' :: s =>
      let (ks, s) ← keyParts? fuel s
      some (k :: ks, s)
    | s => some ([k], s)

/-- Reads a key: the tables that it leads through, and the name in the last of them. -/
def key? : Reader (List String × String) := fun s => do
  let (ks, s) ← keyParts? mostKeyParts s
  some ((ks.dropLast, ← ks.getLast?), s)

end Switchboard.Toml
