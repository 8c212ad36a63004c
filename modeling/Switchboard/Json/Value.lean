import Switchboard.Json.Codec
import Switchboard.Directory
/-
  JSON values whose structure is not fixed in advance. Objects are directories: their members stand
  in the order of the names, and of two members with one name the later counts.
-/
namespace Switchboard.Json

/-- A JSON value. -/
inductive Value
  | null
  | flag (b : Bool)
  | number (n : Number)
  | text (s : String)
  | list (items : List Value)
  | object (members : List (String × Value))

/-- An object with members of any kind. -/
abbrev Object := Directory Value

namespace Value

/-! ## Identity -/

mutual

/-- Whether two values are identical. -/
def beq : Value → Value → Bool
  | .null, .null => true
  | .flag b, .flag c => b == c
  | .number m, .number n => m == n
  | .text s, .text t => s == t
  | .list vs, .list ws => beqAll vs ws
  | .object ms, .object ns => beqMembers ms ns
  | _, _ => false

/-- Whether two lists have identical values. -/
def beqAll : List Value → List Value → Bool
  | [], [] => true
  | v :: vs, w :: ws => beq v w && beqAll vs ws
  | _, _ => false

/-- Whether two lists have identical members. -/
def beqMembers : List (String × Value) → List (String × Value) → Bool
  | [], [] => true
  | (m, v) :: ms, (n, w) :: ns => m == n && beq v w && beqMembers ms ns
  | _, _ => false

end

mutual

theorem beq_eq_true_iff : ∀ v w : Value, beq v w = true ↔ v = w
  | .null, w | .flag _, w | .number _, w | .text _, w => by cases w <;> simp [beq]
  | .list vs, w => by cases w <;> simp [beq, beqAll_eq_true_iff vs]
  | .object ms, w => by cases w <;> simp [beq, beqMembers_eq_true_iff ms]

theorem beqAll_eq_true_iff : ∀ vs ws : List Value, beqAll vs ws = true ↔ vs = ws
  | [], ws => by cases ws <;> simp [beqAll]
  | v :: vs, ws => by cases ws <;> simp [beqAll, beq_eq_true_iff v, beqAll_eq_true_iff vs]

theorem beqMembers_eq_true_iff :
    ∀ ms ns : List (String × Value), beqMembers ms ns = true ↔ ms = ns
  | [], ns => by cases ns <;> simp [beqMembers]
  | (m, v) :: ms, ns => by
    cases ns <;>
      simp [beqMembers, beq_eq_true_iff v, beqMembers_eq_true_iff ms, Prod.ext_iff]

end

instance : DecidableEq Value := fun v w => decidable_of_iff _ (beq_eq_true_iff v w)

/-! ## Writing -/

mutual

/-- The text of a value. -/
def write : Value → List Char
  | .null => writeNull
  | .flag b => writeFlag b
  | .number n => n.write
  | .text s => writeString s
  | .list vs => Json.writeList (writeAll vs)
  | .object ms => writeObject (writeMembers ms)

/-- The texts of several values. -/
def writeAll : List Value → List (List Char)
  | [] => []
  | v :: vs => write v :: writeAll vs

/-- The texts of several members. -/
def writeMembers : List (String × Value) → List (List Char)
  | [] => []
  | (name, v) :: ms => writeMember name (write v) :: writeMembers ms

end

/-! ## Reading -/

/-- Reads a member of an object into what has been read of it. -/
def readMember (value : Reader Value) (name : String) (soFar : Object) :
    Reader Object := fun s => do
  let (v, s) ← value (← colon s)
  .ok (soFar.insert name v, s)

/-- Reads the members of an object whose brace has been opened. -/
def readObject (value : Reader Value) : Reader Object := fun s =>
  members (readMember value) s.length true [] s

/-- The reserved name. Where a value of any kind is wanted, an object whose first member has this
name is no object: it encloses another value, whose text is the string under the name. -/
def reservedName : String := "$serde_json::private::RawValue"

/-- What follows the first name of an object whose brace has been opened, if that is the reserved
name. -/
def afterReserved? (s : List Char) : Option (List Char) :=
  match nextName true s with
  | .ok (.next s) =>
    match stringTail s with
    | .ok (name, s) => if name = reservedName then some s else none
    | .error _ => none
  | _ => none

/-- Reads the string that holds the text of an enclosed value. -/
def readEnclosedText : Reader String := fun s =>
  match skipBlanks s with
  | '"' :: r => stringTail r
  | s => .error (mismatch .enclosed s)

/-- Reads what follows the reserved name; nothing may follow the string under it. -/
def readEnclosed (enclosed : String → Except Refusal Value) : Reader Value := fun s => do
  let (t, s) ← readEnclosedText (← colon s)
  match enclosed t with
  | .ok v => do .ok (v, ← closeObject s)
  | .error refusal => .error (.before (.enclosed refusal.cause refusal.position) s)

/-- Reads a value whose items and members are read by `inner`, or refused as too deep without it;
`enclosed` reads the texts of enclosed values. -/
def readWith (enclosed : String → Except Refusal Value) (inner : Option (Reader Value)) :
    Reader Value := fun s =>
  match skipBlanks s with
  | [] => .error (.before .endInValue [])
  | c :: r =>
    if c = 'n' then do .ok (.null, ← word ['u', 'l', 'l'] r)
    else if c = 't' then do .ok (.flag true, ← word ['r', 'u', 'e'] r)
    else if c = 'f' then do .ok (.flag false, ← word ['a', 'l', 's', 'e'] r)
    else if c = '-' || c.isDigit then do
      let (n, r) ← Json.number (c :: r)
      .ok (.number n, r)
    else if c = '"' then do
      let (t, r) ← stringTail r
      .ok (.text t, r)
    else if c = '[' then
      match inner with
      | none => .error (.on .tooDeep (c :: r))
      | some inner => do
        let (vs, r) ← items inner r.length true r
        .ok (.list vs, r)
    else if c = '\x7b' then
      match inner with
      | none => .error (.on .tooDeep (c :: r))
      | some inner =>
        match afterReserved? r with
        | some r => readEnclosed enclosed r
        | none => do
          let (ms, r) ← readObject inner r
          .ok (.object ms, r)
    else .error (.on .expectedValue (c :: r))

/-- Reads a value in which at most the given number of brackets may be open. -/
def readUsing (enclosed : String → Except Refusal Value) : Nat → Reader Value
  | 0 => readWith enclosed none
  | d + 1 => readWith enclosed (some (readUsing enclosed d))

/-- Reads the text of an enclosed value, in which brackets are counted anew; `fuel` bounds how often
one value encloses another. -/
def ofEnclosed : Nat → String → Except Refusal Value
  | 0, _ => .error ⟨.endInValue, none⟩
  | fuel + 1, t => (Codec.mk (readUsing (ofEnclosed fuel)) write).ofText t

/-- Reads a value in which at most the given number of brackets may be open; an enclosed text is
shorter than the text around it. -/
def read (d : Nat) : Reader Value := fun s => readUsing (ofEnclosed s.length) d s

/-! ## Comparing -/

mutual

/-- Equality of values; numbers are compared as values. -/
def same : Value → Value → Bool
  | .null, .null => true
  | .flag a, .flag b => a == b
  | .number m, .number n => m.same n
  | .text s, .text t => s == t
  | .list vs, .list ws => sameAll vs ws
  | .object ms, .object ns => sameMembers ms ns
  | _, _ => false

/-- Equality of lists of values. -/
def sameAll : List Value → List Value → Bool
  | [], [] => true
  | v :: vs, w :: ws => same v w && sameAll vs ws
  | _, _ => false

/-- Equality of lists of members. -/
def sameMembers : List (String × Value) → List (String × Value) → Bool
  | [], [] => true
  | (a, v) :: ms, (b, w) :: ns => a == b && same v w && sameMembers ms ns
  | _, _ => false

end

end Value

/-- Values of any kind. -/
def Codec.value : Codec Value where
  read := Value.read
  write := Value.write

/-- Objects with members of any kind. -/
def Codec.object : Codec Object where
  read d s :=
    match skipBlanks s with
    | '\x7b' :: r =>
      match d with
      | 0 => .error (.on .tooDeep ('\x7b' :: r))
      | d + 1 => Value.readObject (Value.read d) r
    | s => .error (mismatch .map s)
  write ms := writeObject (Value.writeMembers ms)

end Switchboard.Json
