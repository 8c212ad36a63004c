import Switchboard.Url.Basic
import Switchboard.Url.Path
/-
  Reading URLs. The text is cleaned of blanks at its ends and of line breaks, the scheme decides how
  the rest is taken apart, and every part is brought into normal form.
-/
namespace Switchboard.Url

open Switchboard.Text

/-- Drops controls and spaces at both ends, and tabs and line breaks everywhere. -/
def cleaned (s : List Char) : List Char :=
  let isEdge (c : Char) : Bool := decide (c.toNat ≤ 0x20)
  let inner := ((s.dropWhile isEdge).reverse.dropWhile isEdge).reverse
  inner.filter fun c => !(c == '\t' || c == '\n' || c == '\r')

/-! ## Query and fragment -/

/-- Reads what follows the path. -/
def readSuffix (k : SchemeKind) (s : List Char) : Option String × Option String :=
  let fragment (f : List Char) : String := String.ofList (percentEncode inFragment f)
  match s with
  | '#' :: f => (none, some (fragment f))
  | '?' :: r =>
    let set := if k.isSpecial then inSpecialQuery else inQuery
    match cut '#' r with
    | (q, none) => (some (String.ofList (percentEncode set q)), none)
    | (q, some f) => (some (String.ofList (percentEncode set q)), some (fragment f))
  | _ => (none, none)

/-! ## Authority -/

/-- Whether a character ends the authority. -/
def endsAuthority (k : SchemeKind) (c : Char) : Bool := isSlash k c || c == '?' || c == '#'

/-- Splits at the last `@`. -/
def splitUser (s : List Char) : Option (List Char) × List Char :=
  let host := (s.reverse.takeWhile (· ≠ '@')).reverse
  if host.length = s.length then (none, s) else (some (s.take (s.length - host.length - 1)), host)

/-- A user name and password in normal form; an empty password is dropped with its colon. -/
def userText (s : List Char) : String :=
  let encode := percentEncode inUserInfo
  match cut ':' s with
  | (name, none) => String.ofList (encode name)
  | (name, some []) => String.ofList (encode name)
  | (name, some password) => String.ofList (encode name ++ ':' :: encode password)

/-- Splits off the text of a host: up to a colon outside of brackets. -/
def spanHost (inBrackets : Bool) : List Char → List Char × List Char
  | [] => ([], [])
  | c :: r =>
    if c = ':' ∧ !inBrackets then ([], c :: r)
    else
      let (host, rest) := spanHost (if c = '[' then true else if c = ']' then false else inBrackets) r
      (c :: host, rest)

/-- Reads the digits of a port up to the end of the authority or a backslash. -/
def readPort : Option Nat → List Char → Except Fault (Option Nat × List Char)
  | n?, [] => .ok (n?, [])
  | n?, c :: r =>
    if c.isDigit then
      let n := 10 * n?.getD 0 + (c.toNat - '0'.toNat)
      if 65535 < n then .error .invalidPort else readPort (some n) r
    else if c = '\\' then .ok (n?, c :: r)
    else .error .invalidPort

/-- A port, which is dropped where the scheme implies it. -/
def ownPort? (scheme : String) (port : Option Nat) : Option Nat :=
  if port = defaultPort? scheme then none else port

/-- Reads a host of a scheme that is not for files. -/
def readHost (k : SchemeKind) (s : List Char) : Except Fault Host :=
  if k.isSpecial then if s.isEmpty then .error .emptyHost else Host.ofSpecial s
  else Host.ofOther s

/-- Reads host and port, up to a backslash after the port. -/
def readServer (scheme : String) (user : String) (s : List Char) :
    Except Fault (Authority × List Char) := do
  let k := SchemeKind.of scheme
  let (host, rest) := spanHost false s
  let host ← readHost k host
  match rest with
  | [] => .ok (⟨user, host, none⟩, [])
  | _ :: p =>
    if host = .name "" then .error .emptyHost
    else
      let (port, rest) ← readPort none p
      .ok (⟨user, host, ownPort? scheme port⟩, rest)

/-- Reads an authority, after which `rest` follows; the path starts where the authority has been
read. A user needs a host. -/
def readAuthority (scheme : String) (s : List Char) (rest : List Char) :
    Except Fault (Authority × List Char) := do
  match splitUser s with
  | (none, server) =>
    let (a, left) ← readServer scheme "" server
    .ok (a, left ++ rest)
  | (some user, server) =>
    if user.isEmpty ∧ server.isEmpty ∧ !rest.isEmpty then .error .emptyHost
    else
      let (a, left) ← readServer scheme (userText user) server
      if a.host = .name "" ∧ !a.user.isEmpty then .error .emptyHost else .ok (a, left ++ rest)

/-! ## The whole -/

/-- Reads the path after an authority, and what follows it. -/
def readPathSuffix (scheme : String) (authority : Option Authority) (s : List Char) : Url :=
  let k := SchemeKind.of scheme
  let (path, rest) : List Char × List Char :=
    match k, s with
    | .other, [] => ([], [])
    | .other, c :: r =>
      if c = '?' ∨ c = '#' then ([], c :: r)
      else
        let (state, rest) := readPath k (if c = '/' then [] else ['/']) s
        (state.path, rest)
    | _, c :: r =>
      let (state, rest) := readPath k ['/'] (if isSlash k c then r else s)
      (state.path, rest)
    | _, [] => (['/'], [])
  let (query, fragment) := readSuffix k rest
  ⟨scheme, authority, String.ofList path, query, fragment⟩

/-- Reads what follows the slashes in front of an authority. -/
def readAfterSlashes (scheme : String) (s : List Char) : Except Fault Url := do
  let k := SchemeKind.of scheme
  let isPart (c : Char) : Bool := !endsAuthority k c
  let (a, rest) ← readAuthority scheme (s.takeWhile isPart) (s.dropWhile isPart)
  .ok (readPathSuffix scheme (some a) rest)

/-- Reads a URL without authority whose scheme is not special. -/
def readPlain (scheme : String) (s : List Char) : Url :=
  let (path, rest) : List Char × List Char :=
    match s with
    | '/' :: r =>
      let (state, rest) := readPath .other ['/'] r
      (state.path, rest)
    | s =>
      let isPart (c : Char) : Bool := !(c == '?' || c == '#')
      (percentEncode isControl (s.takeWhile isPart), s.dropWhile isPart)
  let (query, fragment) := readSuffix .other rest
  ⟨scheme, none, String.ofList path, query, fragment⟩

/-- The empty authority of a file on the local machine. -/
def noServer : Authority := ⟨"", .name "", none⟩

/-- A file's URL from its authority, path and what follows; a drive letter drops the host. -/
def fileUrl (authority : Authority) (state : PathState) (rest : List Char) : Url :=
  let (query, fragment) := readSuffix .file rest
  ⟨"file", some (if state.drive then noServer else authority), String.ofList state.path, query,
    fragment⟩

/-- Reads the host of a file; the local machine has none. -/
def readFileHost (s : List Char) : Except Fault Authority :=
  if s.isEmpty then .ok noServer
  else do
    let host ← Host.ofSpecial s
    .ok (if host = .name "localhost" then noServer else ⟨"", host, none⟩)

/-- Reads what follows the two slashes of a file's URL. -/
def readFileServer (s : List Char) : Except Fault Url := do
  let isPart (c : Char) : Bool := !endsAuthority .file c
  let host := s.takeWhile isPart
  let rest := s.dropWhile isPart
  if isDriveLetter host then
    let (state, rest) := readPath .file ['/'] s
    .ok (fileUrl noServer state rest)
  else
    let a ← readFileHost host
    let rest := match rest with
      | c :: r => if isSlash .file c then r else c :: r
      | [] => []
    let (state, rest) := readPath .file ['/'] rest
    .ok (fileUrl a state rest)

/-- Reads what follows the scheme of a file's URL. -/
def readFile (s : List Char) : Except Fault Url :=
  match s with
  | a :: b :: r =>
    if isSlash .file a ∧ isSlash .file b then readFileServer r
    else
      let (state, rest) := readPath .file ['/'] (if isSlash .file a then b :: r else s)
      .ok (fileUrl noServer state rest)
  | s =>
    let (state, rest) := readPath .file ['/'] (s.dropWhile (isSlash .file))
    .ok (fileUrl noServer state rest)

/-- Reads a URL. -/
def ofText (text : String) : Except Fault Url :=
  match spanScheme? (cleaned text.toList) with
  | none => .error .relative
  | some (scheme, s) =>
    match SchemeKind.of scheme with
    | .file => readFile s
    | .network => readAfterSlashes scheme (s.dropWhile (isSlash .network))
    | .other =>
      match s with
      | '/' :: '/' :: r => readAfterSlashes scheme r
      | s => .ok (readPlain scheme s)

end Switchboard.Url
