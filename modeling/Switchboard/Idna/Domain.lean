import Switchboard.Idna.Direction
import Switchboard.Idna.Joining
import Switchboard.Idna.Mapping
import Switchboard.Idna.Punycode
/-
  Internationalised host names: the ASCII form of a name, in which each label with characters
  beyond ASCII is written in Punycode behind `xn--`. Labels are neither limited in length nor
  checked for hyphens.
-/
namespace Switchboard.Idna

open Switchboard.Text

/-- What marks a label written in Punycode. -/
def aceMark : List Char := ['x', 'n', '-', '-']

/-- The ASCII characters that no host name may contain. -/
def isForbidden (c : Char) : Bool :=
  c.toNat ≤ 0x20 || c.toNat == 0x7F
    || ['#', '/', ':', '<', '>', '?', '@', '[', '\\', ']', '^', '|', '%'].contains c

/-- Whether all characters are ASCII. -/
def isAscii (s : List Char) : Bool := s.all (·.toNat < 0x80)

/-- A label in both its forms. -/
structure Label where
  shown : List Char
  ascii : List Char

/-- Whether mapping and composing leave a label as it is. -/
def isStable (s : List Char) : Bool := mapName? s == some s && composed s == s

/-- Whether a label is well formed apart from its direction. -/
def isWellFormed (s : List Char) : Bool :=
  !(s.any isForbidden) && joinersFit [] s
    && match s with
      | c :: _ => !isMark c
      | [] => true

/-- Reads a label of a mapped and composed name. -/
def Label.ofText? (s : List Char) : Option Label :=
  if begins aceMark s then do
    let shown ← Punycode.decode? (s.drop 4)
    if !isAscii shown && isStable shown && isWellFormed shown then some ⟨shown, s⟩ else none
  else if !isWellFormed s then none
  else if isAscii s then some ⟨s, s⟩
  else do some ⟨s, aceMark ++ (← Punycode.encode? s)⟩

/-- The ASCII form of a host name. -/
def domainToAscii? (name : List Char) : Option (List Char) := do
  let mapped ← mapName? name
  let labels ← (pieces '.' (composed mapped)).mapM Label.ofText?
  if labels.any (fun l => l.shown.any turnsRight) && !labels.all (fun l => obeysDirection l.shown)
  then none
  else some (List.intercalate ['.'] (labels.map Label.ascii))

end Switchboard.Idna
