import Switchboard.Json.Codec
/-
  Records: structures with named fields. A record is described once, by its fields in order, and
  the description gives both reader and writer. A record is read from an object, in which members
  may stand in any order and unknown ones are passed over, or from a list of its fields in order.
-/
namespace Switchboard.Json

/-- A field of a record. -/
structure Field (α : Type) where
  name : String
  codec : Codec α
  /-- The value of a field that is not there; a field without such a value is required. -/
  absent : Option α
  /-- Whether the field is left out when the record is written. -/
  omitted : α → Bool

/-- The fields of a record, with the types of their values. -/
inductive Fields : List Type → Type 1
  | nil : Fields []
  | cons {α : Type} {ts : List Type} (field : Field α) (rest : Fields ts) : Fields (α :: ts)

/-- One value for each field. -/
@[reducible] def Tuple : List Type → Type
  | [] => Unit
  | α :: ts => α × Tuple ts

/-- The values that have been read so far. -/
@[reducible] def Slots : List Type → Type
  | [] => Unit
  | α :: ts => Option α × Slots ts

/-- The content of a slot that has to be filled; what is wrong with an empty one depends on its
name. -/
def filled {ε α : Type} (missing : String → ε) (name : String) : Option α → Except ε α
  | some a => .ok a
  | none => .error (missing name)

theorem filled_eq_ok {ε α : Type} {missing : String → ε} {name : String} {slot : Option α} {a : α} :
    filled missing name slot = .ok a ↔ slot = some a := by
  cases slot with
  | none => exact ⟨nofun, nofun⟩
  | some b => exact ⟨fun h => by cases h; rfl, fun h => by cases h; rfl⟩

namespace Fields

/-- The number of fields. -/
def count {ts : List Type} : Fields ts → Nat
  | .nil => 0
  | .cons _ fs => fs.count + 1

/-- The slots before anything has been read. -/
def slots {ts : List Type} : Fields ts → Slots ts
  | .nil => ()
  | .cons _ fs => (none, fs.slots)

/-- The refusal of a field that occurs a second time, at the end of its name or, if the object ends
there, after it. -/
def duplicateFault (name : String) (s : List Char) : Fault :=
  match skipBlanks s with
  | '\x7d' :: r => .before (.duplicateField name) r
  | r => .before (.duplicateField name) r

/-- Reads a member into the slot of its field; a member without a field is passed over. -/
def member (d : Nat) (name : String) {ts : List Type} : Fields ts → Slots ts → Reader (Slots ts)
  | .nil, _, s => do
    let s ← pass (← colon s)
    .ok ((), s)
  | .cons f fs, (slot, slots), s =>
    if f.name = name then
      match slot with
      | some _ => .error (duplicateFault name s)
      | none => do
        let (a, s) ← f.codec.read d (← colon s)
        .ok ((some a, slots), s)
    else do
      let (slots, s) ← fs.member d name slots s
      .ok ((slot, slots), s)

/-- The values of all fields, or the name of the first required one that is not there. -/
def filled {ts : List Type} : Fields ts → Slots ts → Except String (Tuple ts)
  | .nil, _ => .ok ()
  | .cons f fs, (slot, slots) =>
    match slot <|> f.absent with
    | none => .error f.name
    | some a => do .ok (a, ← fs.filled slots)

/-- The values of fields none of which is there, or the index of the first required one. -/
def absents {ts : List Type} : Fields ts → Nat → Except Nat (Tuple ts)
  | .nil, _ => .ok ()
  | .cons f fs, index =>
    match f.absent with
    | none => .error index
    | some a => do .ok (a, ← fs.absents (index + 1))

/-- Reads the fields from the items of a list, in order; the last ones may be absent. -/
def ofItems (short : Nat → Cause) (d : Nat) {ts : List Type} :
    Fields ts → Nat → List Char → Except Fault (Tuple ts × List Char)
  | .nil, _, s => do .ok ((), ← closeList s)
  | .cons f fs, index, s => do
    match ← nextItem (index == 0) s with
    | .next s =>
      let (a, s) ← f.codec.read d s
      let (as, s) ← fs.ofItems short d (index + 1) s
      .ok ((a, as), s)
    | .done s =>
      match (Fields.cons f fs).absents index with
      | .ok as => .ok (as, s)
      | .error index => .error (.before (short index) s)

/-- The written members of the fields that are not left out. -/
def write {ts : List Type} : Fields ts → Tuple ts → List (List Char)
  | .nil, _ => []
  | .cons f fs, (a, as) =>
    if f.omitted a then fs.write as else writeMember f.name (f.codec.write a) :: fs.write as

end Fields

/-- The description of a record type: its name in refusals, its fields, and how their values make
up the record. -/
structure Record (α : Type) where
  name : String
  types : List Type
  fields : Fields types
  make : Tuple types → α
  parts : α → Tuple types

namespace Record

variable {α : Type} (r : Record α)

/-- Reads the record from an object whose brace has been opened. -/
def ofObject (d : Nat) : Reader α := fun s => do
  let (slots, s) ← members (fun name slots s => r.fields.member d name slots s) s.length true
    r.fields.slots s
  match r.fields.filled slots with
  | .ok as => .ok (r.make as, s)
  | .error name => .error (.before (.missingField name) s)

/-- Reads the record from a list whose bracket has been opened. -/
def ofList (d : Nat) : Reader α := fun s => do
  let (as, s) ← r.fields.ofItems (fun index => .tooShort index r.name r.fields.count) d 0 s
  .ok (r.make as, s)

/-- Reads and writes the record. -/
def codec : Codec α where
  read d s :=
    match skipBlanks s with
    | '\x7b' :: s =>
      match d with
      | 0 => .error (.on .tooDeep ('\x7b' :: s))
      | d + 1 => r.ofObject d s
    | '[' :: s =>
      match d with
      | 0 => .error (.on .tooDeep ('[' :: s))
      | d + 1 => r.ofList d s
    | s => .error (mismatch (.record r.name) s)
  write a := writeObject (r.fields.write (r.parts a))

end Record

/-! ## Kinds of fields -/

/-- A field that must be there and is always written. -/
def Field.required {α : Type} (name : String) (codec : Codec α) : Field α :=
  ⟨name, codec, none, fun _ => false⟩

/-- A field with a value for its absence, always written. -/
def Field.withDefault {α : Type} (name : String) (codec : Codec α) (absent : α) : Field α :=
  ⟨name, codec, some absent, fun _ => false⟩

/-- A string that is empty when absent, and always written. -/
def Field.text (name : String) : Field String := .withDefault name .text ""

/-- A string that is empty when absent, and left out when empty. -/
def Field.textOrEmpty (name : String) : Field String :=
  ⟨name, .text, some "", fun s => s.isEmpty⟩

/-- A list that is empty when absent, and left out when empty. -/
def Field.listOrEmpty {α : Type} (name : String) (codec : Codec α) : Field (List α) :=
  ⟨name, codec.list, some [], fun as => as.isEmpty⟩

/-- A value that may be absent or `null`, and is left out then. -/
def Field.optional {α : Type} (name : String) (codec : Codec α) : Field (Option α) :=
  ⟨name, codec.optional, some none, fun a => a.isNone⟩

/-- A value that may be absent or `null`, and is written as `null` then. -/
def Field.nullable {α : Type} (name : String) (codec : Codec α) : Field (Option α) :=
  ⟨name, codec.optional, some none, fun _ => false⟩

end Switchboard.Json
