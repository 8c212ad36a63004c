import Switchboard.Toml.Draft
import Switchboard.Toml.Number
/-
  Reading settings documents: values, entries, headers, and the document line by line.
-/
namespace Switchboard.Toml

/-- The most brackets and braces that may be open at one place. -/
def deepest : Nat := 79

/-! ## Values -/

/-- Reads the items of a list up to the closing bracket; `fuel` bounds their number. -/
def items? (value : Reader Value) : Nat → Reader (List Value)
  | 0, _ => none
  | fuel + 1, s =>
    match skipTrivia false s with
    | ']' :: r => some ([], r)
    | s => do
      let (v, s) ← value s
      match skipTrivia false s with
      | ',' :: r =>
        let (vs, r) ← items? value fuel r
        some (v :: vs, r)
      | ']' :: r => some ([v], r)
      | _ => none

/-- Reads a key, an equals sign and a value. -/
def entry? (value : Reader Value) : Reader ((List String × String) × Value) := fun s => do
  let (k, s) ← key? s
  match s with
  | '=' :: s =>
    let (v, s) ← value (skipBlanks s)
    some ((k, v), s)
  | _ => none

/-- Reads the entries of a table in braces up to the closing brace; `fuel` bounds their number. -/
def entries? (value : Reader Value) : Nat → DraftTable → Reader DraftTable
  | 0, _, _ => none
  | fuel + 1, t, s => do
    let (((path, name), v), s) ← entry? value s
    let t ← t.add? path name v
    match skipBlanks s with
    | ',' :: r => entries? value fuel t r
    | '\x7d' :: r => some (t, r)
    | _ => none

/-- Reads a table whose brace has been opened. -/
def inlineTable? (value : Reader Value) : Reader Table := fun s =>
  match skipBlanks s with
  | '\x7d' :: r => some ([], r)
  | s => (entries? value s.length (.empty .opened) s).map fun (t, r) => (t.finish, r)

/-- Reads a given word. -/
def word? : List Char → List Char → Option (List Char)
  | [], s => some s
  | _ :: _, [] => none
  | a :: w, c :: s => if c = a then word? w s else none

/-- Reads a number, a date or a time. -/
def numeric? : Reader Value := fun s =>
  ((moment? s).map fun (m, r) => (Value.moment m, r))
    <|> ((real? s).map fun (x, r) => (Value.real x, r))
    <|> ((integer? s).map fun (n, r) => (Value.integer n, r))

/-- Reads a value whose items and entries are read by `inner`, or none if it is too deep. -/
def valueWith? (inner : Option (Reader Value)) : Reader Value
  | [] => none
  | c :: r =>
    if c = '"' ∨ c = '\'' then
      (string? (c :: r)).map fun (t, r) => (.text (String.ofList t), r)
    else if c = '[' then do
      let (vs, r) ← items? (← inner) (r.length + 1) r
      some (.list vs, r)
    else if c = '\x7b' then do
      let (t, r) ← inlineTable? (← inner) r
      some (.table t, r)
    else if c = 't' then (word? ['r', 'u', 'e'] r).map fun r => (.flag true, r)
    else if c = 'f' then (word? ['a', 'l', 's', 'e'] r).map fun r => (.flag false, r)
    else numeric? (c :: r)

/-- Reads a value in which at most the given number of brackets and braces may be open. -/
def value? : Nat → Reader Value
  | 0 => valueWith? none
  | d + 1 => valueWith? (some (value? d))

/-! ## Documents -/

/-- A document as far as it has been read: the whole, and the path of the table that the last header
has opened. -/
structure Progress where
  whole : DraftTable
  path : List String

/-- Reads a header: the path of its table. -/
def header? : Reader (List String × String) := fun s => do
  let (k, s) ← key? s
  match s with
  | ']' :: r => some (k, r)
  | _ => none

/-- Reads the rest of a header of a table. -/
def Progress.tableHeader? (p : Progress) (s : List Char) : Option (Progress × List Char) := do
  let ((path, name), s) ← header? s
  let whole ← p.whole.change? (DraftTable.openTable? name) .implied path
  some (⟨whole, path ++ [name]⟩, s)

/-- Reads the rest of a header of a list of tables. -/
def Progress.listHeader? (p : Progress) (s : List Char) : Option (Progress × List Char) := do
  let ((path, name), s) ← header? s
  match s with
  | ']' :: s =>
    let whole ← p.whole.change? (DraftTable.startTable? name) .implied path
    some (⟨whole, path ++ [name]⟩, s)
  | _ => none

/-- Reads an entry of the table that the last header has opened. -/
def Progress.entry? (p : Progress) (s : List Char) : Option (Progress × List Char) := do
  let (((path, name), v), s) ← Toml.entry? (value? deepest) s
  let whole ← p.whole.change? (DraftTable.add? path name v) .implied p.path
  some ({ p with whole }, s)

/-- Reads what a line starts with; nothing may follow it but a comment. -/
def Progress.line? (p : Progress) (s : List Char) : Option (Progress × List Char) :=
  match s with
  | '#' :: _ => some (p, s)
  | '\n' :: _ => some (p, s)
  | '\r' :: _ => some (p, s)
  | '[' :: '[' :: r => p.listHeader? r
  | '[' :: r => p.tableHeader? r
  | s => p.entry? s

/-- Reads line after line; `fuel` bounds their number. -/
def Progress.lines? : Nat → Progress → List Char → Option Progress
  | fuel, p, s =>
    match skipBlanks s with
    | [] => some p
    | s =>
      match fuel with
      | 0 => none
      | fuel + 1 => do
        let (p, s) ← p.line? s
        Progress.lines? fuel p (← restOfLine? s)

/-- Drops the mark of the byte order. -/
def skipMark : List Char → List Char
  | '\ufeff' :: r => r
  | r => r

/-- Reads a document. -/
def ofText? (text : String) : Option Table :=
  let s := skipMark text.toList
  ((Progress.lines? s.length ⟨.empty .opened, []⟩ s)).map (·.whole.finish)

end Switchboard.Toml
