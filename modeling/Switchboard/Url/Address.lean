import Switchboard.Decimal.Numeral
import Switchboard.Text.CodePoints
import Switchboard.Url.Fault
/-
  Numeric addresses as hosts. An IPv4 address has up to four numbers, decimal, octal or hexadecimal,
  of which the last fills what remains of the 32 bits; an IPv6 address has eight groups of 16 bits,
  of which one run of zeros may be left out.
-/
namespace Switchboard.Url

open Switchboard.Decimal (digitsOf)
open Switchboard.Text

/-! ## IPv4 -/

/-- A 32-bit address. -/
structure Ipv4 where
  value : Nat
  deriving DecidableEq, Repr

/-- What is known of a part of a name that might be a number. -/
inductive AddressPart
  | number (n : Nat)
  | tooLarge
  | notNumber
  deriving DecidableEq

/-- The value of a digit in a base, if it is one. -/
def digitIn? (base : Nat) (c : Char) : Option Nat :=
  match hexValue? c with
  | some d => if d < base then some d else none
  | none => none

/-- The number that digits write in a base. -/
def numberIn? (base : Nat) (s : List Char) : Option Nat :=
  s.foldlM (fun n c => (digitIn? base c).map (base * n + ·)) 0

/-- Splits off the mark of a base: `0x` for hexadecimal, `0` for octal. -/
def spanBase : List Char → Nat × List Char
  | '0' :: 'x' :: r => (16, r)
  | '0' :: 'X' :: r => (16, r)
  | '0' :: c :: r => (8, c :: r)
  | r => (10, r)

/-- Reads a part of a name as a number of 32 bits. -/
def AddressPart.ofText (s : List Char) : AddressPart :=
  if s.isEmpty then .notNumber
  else
    let (base, ds) := spanBase s
    match numberIn? base ds with
    | none => .notNumber
    | some n => if n < 0x100000000 then .number n else .tooLarge

/-- Whether the last part of a name, which may be followed by a point, is a number: then the name
has to be an address. -/
def endsInNumber (name : List Char) : Bool :=
  let last? := match (pieces '.' name).reverse with
    | [] :: p :: _ => some p
    | [] :: [] => none
    | p :: _ => some p
    | [] => none
  match last? with
  | none => false
  | some p =>
    (!p.isEmpty && p.all Char.isDigit) || AddressPart.ofText p != .notNumber

/-- The numbers of a list of parts. -/
def partNumbers? : List (List Char) → Option (List Nat)
  | [] => some []
  | p :: ps =>
    match AddressPart.ofText p with
    | .number n => (partNumbers? ps).map (n :: ·)
    | _ => none

/-- The address whose leading bytes and last number are given. -/
def Ipv4.ofNumbers? (leading : List Nat) (last : Nat) : Option Ipv4 :=
  if leading.any (255 < ·) ∨ Nat.pow 256 (4 - leading.length) ≤ last then none
  else some ⟨(leading.foldl (256 * · + ·) 0) * Nat.pow 256 (4 - leading.length) + last⟩

/-- Reads an address. -/
def Ipv4.ofText? (name : List Char) : Option Ipv4 :=
  let parts := pieces '.' name
  let parts := if parts.getLast? = some [] then parts.dropLast else parts
  if 4 < parts.length then none
  else do
    let numbers ← partNumbers? parts
    Ipv4.ofNumbers? numbers.dropLast (← numbers.getLast?)

/-- The four bytes of an address with points between them. -/
def Ipv4.text (a : Ipv4) : List Char :=
  List.intercalate ['.']
    [digitsOf (a.value / 0x1000000 % 256), digitsOf (a.value / 0x10000 % 256),
      digitsOf (a.value / 0x100 % 256), digitsOf (a.value % 256)]

/-! ## IPv6 -/

/-- The eight groups of an address. -/
structure Ipv6 where
  groups : List Nat
  deriving DecidableEq, Repr

/-- What has been read of an address: the groups before the gap, and those after it if there has
been one. -/
structure Groups where
  before : List Nat
  after : Option (List Nat)

/-- The number of groups read. -/
def Groups.count (g : Groups) : Nat := g.before.length + (g.after.getD []).length

/-- Adds a group. -/
def Groups.push (g : Groups) (n : Nat) : Groups :=
  match g.after with
  | none => { g with before := g.before ++ [n] }
  | some a => { g with after := some (a ++ [n]) }

/-- The address, if the groups fill it; the gap stands for at least one group of zero. -/
def Groups.address? (g : Groups) : Option Ipv6 :=
  match g.after with
  | none => if g.before.length = 8 then some ⟨g.before⟩ else none
  | some a =>
    if g.count < 8 then some ⟨g.before ++ List.replicate (8 - g.count) 0 ++ a⟩ else none

/-- Splits off at most four hexadecimal digits. -/
def spanGroup (s : List Char) : List Char × List Char :=
  let ds := (s.take 4).takeWhile fun c => (hexValue? c).isSome
  (ds, s.drop ds.length)

/-- Reads a byte in decimal digits, without a zero before others. -/
def byte? (s : List Char) : Option Nat :=
  match s with
  | ['0'] => some 0
  | '0' :: _ => none
  | [] => none
  | ds =>
    if ds.length ≤ 3 then
      match numberIn? 10 ds with
      | some n => if n ≤ 255 then some n else none
      | none => none
    else none

/-- Reads the two groups that an address with points stands for. -/
def pointed? (s : List Char) : Option (Nat × Nat) :=
  match pieces '.' s with
  | [a, b, c, d] => do some (256 * (← byte? a) + (← byte? b), 256 * (← byte? c) + (← byte? d))
  | _ => none

/-- Reads groups, with `fuel` bounding their number. -/
def readGroups : Nat → Groups → List Char → Option Groups
  | _, g, [] => some g
  | 0, _, _ => none
  | fuel + 1, g, ':' :: s =>
    if g.count < 8 ∧ g.after.isNone then readGroups fuel { g with after := some [] } s else none
  | fuel + 1, g, s =>
    if 8 ≤ g.count then none
    else
      let (ds, rest) := spanGroup s
      match rest with
      | [] => some (g.push (hexNumber ds))
      | '.' :: _ =>
        if ds.isEmpty ∨ 6 < g.count then none
        else do
          let (a, b) ← pointed? s
          some ((g.push a).push b)
      | ':' :: [] => none
      | ':' :: rest => readGroups fuel (g.push (hexNumber ds)) rest
      | _ => none

/-- Reads an address. -/
def Ipv6.ofText? (s : List Char) : Option Ipv6 := do
  let groups ← match s with
    | ':' :: ':' :: r => readGroups 8 ⟨[], some []⟩ r
    | ':' :: _ => none
    | [] => none
    | r => readGroups 9 ⟨[], none⟩ r
  groups.address?

/-- The place and the length of the first longest run of zeros. -/
def longestZeros (groups : List Nat) : Nat × Nat :=
  go 0 groups (0, 0)
where
  /-- Goes through the groups from place `i`. -/
  go (i : Nat) : List Nat → Nat × Nat → Nat × Nat
    | [], best => best
    | n :: r, best =>
      let run := ((n :: r).takeWhile (· == 0)).length
      go (i + 1) r (if best.2 < run then (i, run) else best)

/-- Groups in hexadecimal digits with colons between them. -/
def writeGroups (groups : List Nat) : List Char :=
  List.intercalate [':'] (groups.map hexDigits)

/-- An address with its first longest run of two or more zeros left out. -/
def Ipv6.text (a : Ipv6) : List Char :=
  let (start, run) := longestZeros a.groups
  if run < 2 then writeGroups a.groups
  else writeGroups (a.groups.take start) ++ ':' :: ':' :: writeGroups (a.groups.drop (start + run))

end Switchboard.Url
