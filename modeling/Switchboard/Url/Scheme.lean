import Switchboard.Text.Blank
/-
  Schemes. A few schemes are special: their URLs always have an authority and a path, and a
  backslash counts as a slash.
-/
namespace Switchboard.Url

/-- The three kinds of schemes. -/
inductive SchemeKind
  /-- Special, and for files. -/
  | file
  /-- Special, with a host on the network. -/
  | network
  | other
  deriving DecidableEq, Repr

/-- The kind of a scheme. -/
def SchemeKind.of (scheme : String) : SchemeKind :=
  if scheme = "file" then .file
  else if ["http", "https", "ws", "wss", "ftp"].contains scheme then .network
  else .other

/-- Whether a kind is special. -/
def SchemeKind.isSpecial (k : SchemeKind) : Bool := k != .other

/-- The port that a scheme implies. -/
def defaultPort? (scheme : String) : Option Nat :=
  if scheme = "http" ∨ scheme = "ws" then some 80
  else if scheme = "https" ∨ scheme = "wss" then some 443
  else if scheme = "ftp" then some 21
  else none

/-- Whether a character may stand in a scheme after its first letter. -/
def isSchemeChar (c : Char) : Bool := c.isAlphanum || c == '+' || c == '-' || c == '.'

/-- Splits off a scheme and its colon. -/
def spanScheme? (s : List Char) : Option (String × List Char) :=
  match s with
  | [] => none
  | c :: r =>
    if c.isAlpha then
      match r.dropWhile isSchemeChar with
      | ':' :: rest =>
        some (String.ofList (Text.lowerAscii (c :: r.takeWhile isSchemeChar)), rest)
      | _ => none
    else none

/-- Whether a character is a slash for URLs of a kind. -/
def isSlash (k : SchemeKind) (c : Char) : Bool := c == '/' || (k.isSpecial && c == '\\')

end Switchboard.Url
