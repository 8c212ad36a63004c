import Switchboard.Url.Percent
import Switchboard.Url.Scheme
/-
  Paths. A path is built segment by segment: a segment of one dot vanishes, a segment of two dots
  takes the one before it away, and in the paths of files a drive letter stays in front.
-/
namespace Switchboard.Url

open Switchboard.Text

/-- Whether a segment stands for its own directory. -/
def isSingleDot (s : List Char) : Bool :=
  [".", "%2e"].contains (String.ofList (lowerAscii s))

/-- Whether a segment stands for the directory above. -/
def isDoubleDot (s : List Char) : Bool :=
  ["..", "%2e.", ".%2e", "%2e%2e"].contains (String.ofList (lowerAscii s))

/-- A letter and a colon or bar. -/
def isDriveLetter : List Char → Bool
  | [c, d] => c.isAlpha && (d == ':' || d == '|')
  | _ => false

/-- A letter and a colon. -/
def isNormalDriveLetter : List Char → Bool
  | [c, ':'] => c.isAlpha
  | _ => false

/-- Whether a path starts with a drive letter and a delimiter. -/
def startsWithDrive : List Char → Bool
  | '/' :: c :: d :: r =>
    isDriveLetter [c, d] && match r with
      | [] => true
      | e :: _ => ['/', '\\', '?', '#'].contains e
  | _ => false

/-- A path up to its last slash, and what follows the slash. -/
def splitLastSlash (path : List Char) : List Char × List Char :=
  let tail := (path.reverse.takeWhile (· ≠ '/')).reverse
  (path.take (path.length - tail.length), tail)

/-- Whether a path ends with a slash. -/
def endsWithSlash (path : List Char) : Bool := path.getLast? == some '/'

/-- Drops the slash at the end of a path, unless it is the only one or follows a drive letter. -/
def dropSlash (path : List Char) : List Char :=
  if endsWithSlash path then
    let shorter := path.dropLast
    let (head, tail) := splitLastSlash shorter
    if head.isEmpty ∨ startsWithDrive ('/' :: tail ++ ['/']) then path else shorter
  else path

/-- Takes the last segment of a path away; a drive letter of a file stays. -/
def popSegment (k : SchemeKind) (path : List Char) : List Char :=
  if path.isEmpty ∨ (k = .file ∧ isNormalDriveLetter path) then path
  else
    let (head, tail) := splitLastSlash path
    if k = .file ∧ isNormalDriveLetter tail then path else head

/-- The path after a segment of two dots. -/
def ascend (k : SchemeKind) (path : List Char) (slash : Bool) : List Char :=
  let shorter := popSegment k (dropSlash path)
  if slash && !endsWithSlash shorter then shorter ++ ['/'] else shorter

/-- A path with one more segment, followed by a slash or not. -/
def appendSegment (k : SchemeKind) (path segment : List Char) (slash : Bool) : List Char :=
  let segment := percentEncode inPath segment
  let close := if slash then ['/'] else []
  if isDoubleDot segment then ascend k path slash
  else if isSingleDot segment then if endsWithSlash path then path else path ++ ['/']
  else if k = .file ∧ path.length = 1 ∧ isDriveLetter segment then
    path ++ segment.take 1 ++ ':' :: close
  else path ++ segment ++ close

/-- Whether a segment would make a file's path start with a drive letter, so that the host is
dropped. -/
def takesDrive (k : SchemeKind) (path segment : List Char) : Bool :=
  k == .file && path.length == 1 && isDriveLetter (percentEncode inPath segment)

/-- A path as it is built, and whether a drive letter has been met at its start. -/
structure PathState where
  path : List Char
  drive : Bool

/-- Adds a segment. -/
def PathState.add (k : SchemeKind) (s : PathState) (segment : List Char) (slash : Bool) :
    PathState :=
  ⟨appendSegment k s.path segment slash, s.drive || takesDrive k s.path segment⟩

/-- Builds a path from a text, up to the query or the fragment; `segment` holds what has been read
of the current segment, last first. -/
def PathState.read (k : SchemeKind) (s : PathState) (segment : List Char) :
    List Char → PathState × List Char
  | [] => (s.add k segment.reverse false, [])
  | c :: r =>
    if c = '?' ∨ c = '#' then (s.add k segment.reverse false, c :: r)
    else if isSlash k c then (s.add k segment.reverse true).read k [] r
    else s.read k (c :: segment) r

/-- The path of a file has one slash at its start. -/
def filePath (path : List Char) : List Char := '/' :: path.dropWhile (· == '/')

/-- Builds a path that starts as given. -/
def readPath (k : SchemeKind) (start : List Char) (s : List Char) : PathState × List Char :=
  let (state, rest) := PathState.read k ⟨start, false⟩ [] s
  if k = .file then ({ state with path := filePath state.path }, rest) else (state, rest)

end Switchboard.Url
