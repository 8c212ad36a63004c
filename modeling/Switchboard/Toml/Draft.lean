import Switchboard.Toml.Value
/-
  Documents in the making. While a document is read, a table also knows how it came about, because
  that decides what may still be added to it: a table is opened by one header only, and a key with
  points leads only through tables that such keys have made.
-/
namespace Switchboard.Toml

/-- How a table came about. -/
inductive Origin
  /-- By a header, by braces, or as the whole document. -/
  | opened
  /-- By a header of a table inside it. -/
  | implied
  /-- By a key with points. -/
  | dotted
  deriving DecidableEq

/-- An entry of a table in the making. -/
inductive Draft
  | value (v : Value)
  | table (origin : Origin) (entries : List (String × Draft))
  /-- The tables of a list that headers fill, the last one first. -/
  | tables (last : List (String × Draft)) (earlier : List (List (String × Draft)))

namespace Draft

mutual

/-- The value that an entry amounts to. -/
def finish : Draft → Value
  | .value v => v
  | .table _ es => .table (Directory.ofList (finishAll es))
  | .tables last earlier =>
    .list ((finishLists earlier).reverse ++ [.table (Directory.ofList (finishAll last))])

/-- The values of the entries of a table. -/
def finishAll : List (String × Draft) → List (String × Value)
  | [] => []
  | (k, d) :: r => (k, finish d) :: finishAll r

/-- The tables that lists of entries amount to. -/
def finishLists : List (List (String × Draft)) → List Value
  | [] => []
  | es :: r => .table (Directory.ofList (finishAll es)) :: finishLists r

end

end Draft

/-- A table in the making. -/
structure DraftTable where
  origin : Origin
  entries : Directory Draft

namespace DraftTable

/-- A table without entries. -/
def empty (origin : Origin) : DraftTable := ⟨origin, []⟩

/-- Puts an entry under a name. -/
def put (t : DraftTable) (name : String) (d : Draft) : DraftTable :=
  { t with entries := t.entries.insert name d }

/-- Changes the table that a path leads to; tables on the way that are not there are made by
`origin`. A path of a key with points leads through no table that a header has opened. -/
def change? (f : DraftTable → Option DraftTable) (origin : Origin) :
    List String → DraftTable → Option DraftTable
  | [], t => f t
  | k :: ks, t =>
    match t.entries.find? k with
    | none => do
      let u ← change? f origin ks (.empty origin)
      some (t.put k (.table u.origin u.entries))
    | some (.value _) => none
    | some (.tables last earlier) => do
      let u ← change? f origin ks ⟨.opened, last⟩
      some (t.put k (.tables u.entries earlier))
    | some (.table o es) =>
      if origin = .dotted ∧ o = .opened then none
      else do
        let u ← change? f origin ks ⟨o, es⟩
        some (t.put k (.table u.origin u.entries))

/-- Adds a value under a name that is not taken; a key with points adds only to a table that such
keys have made, and one without only to a table that they have not made. -/
def addValue? (isDotted : Bool) (name : String) (v : Value) (t : DraftTable) : Option DraftTable :=
  if (t.origin == .dotted) != isDotted ∨ (t.entries.find? name).isSome then none
  else some (t.put name (.value v))

/-- Adds the value of a key. -/
def add? (path : List String) (name : String) (v : Value) (t : DraftTable) : Option DraftTable :=
  t.change? (addValue? (!path.isEmpty) name v) .dotted path

/-- Opens a table by a header: a new one, or one that has only been implied. -/
def openTable? (name : String) (t : DraftTable) : Option DraftTable :=
  match t.entries.find? name with
  | none => some (t.put name (.table .opened []))
  | some (.table .implied es) => some (t.put name (.table .opened es))
  | some _ => none

/-- Starts a new table in a list of tables. -/
def startTable? (name : String) (t : DraftTable) : Option DraftTable :=
  match t.entries.find? name with
  | none => some (t.put name (.tables [] []))
  | some (.tables last earlier) => some (t.put name (.tables [] (last :: earlier)))
  | some _ => none

/-- The table when nothing more is added. -/
def finish (t : DraftTable) : Table := Directory.ofList (Draft.finishAll t.entries)

end DraftTable

end Switchboard.Toml
