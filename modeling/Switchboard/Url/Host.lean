import Switchboard.Idna.Domain
import Switchboard.Url.Address
import Switchboard.Url.Percent
/-
  Hosts. In the special schemes a host is a domain name or a numeric address, and names are brought
  into one form; in all other schemes it is kept as written.
-/
namespace Switchboard.Url

open Switchboard.Text

/-- The host of a URL. -/
inductive Host
  /-- A domain name in its ASCII form, or the text of a host that is no name. -/
  | name (s : String)
  | ipv4 (a : Ipv4)
  | ipv6 (a : Ipv6)
  deriving DecidableEq, Repr

/-- The text of a host. -/
def Host.text : Host → String
  | .name s => s
  | .ipv4 a => String.ofList a.text
  | .ipv6 a => String.ofList ('[' :: a.text ++ [']'])

/-- The text that bytes encode. -/
def utf8? (bytes : List UInt8) : Option (List Char) :=
  (String.fromUTF8? ⟨bytes.toArray⟩).map String.toList

/-- Reads an address whose opening bracket has been read. -/
def bracketed (s : List Char) : Except Fault Host :=
  if s.getLast? = some ']' then
    match Ipv6.ofText? s.dropLast with
    | some a => .ok (.ipv6 a)
    | none => .error .invalidIpv6
  else .error .invalidIpv6

/-- Reads the host of a special scheme. -/
def Host.ofSpecial (s : List Char) : Except Fault Host :=
  match s with
  | '[' :: r => bracketed r
  | s =>
    match (utf8? (percentDecode s)).bind Idna.domainToAscii? with
    | none => .error .invalidName
    | some [] => .error .emptyHost
    | some domain =>
      if endsInNumber domain then
        match Ipv4.ofText? domain with
        | some a => .ok (.ipv4 a)
        | none => .error .invalidIpv4
      else .ok (.name (String.ofList domain))

/-- What may not stand in the host of a scheme that is not special. -/
def isForbiddenInHost (c : Char) : Bool :=
  ['\x00', '\t', '\n', '\r', ' ', '#', '/', ':', '<', '>', '?', '@', '[', '\\', ']', '^',
    '|'].contains c

/-- Reads the host of a scheme that is not special. -/
def Host.ofOther (s : List Char) : Except Fault Host :=
  match s with
  | '[' :: r => bracketed r
  | s =>
    if s.any isForbiddenInHost then .error .invalidCharacter
    else .ok (.name (String.ofList (percentEncode isControl s)))

end Switchboard.Url
