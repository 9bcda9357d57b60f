import RunWatch.Text.Parts
import RunWatch.Url.Percent
/-!
Paths of addresses. A path in a tree is read segment by segment: a dot stays in place, two dots go
one level up, and no level is above the root. A drive, such as `C:`, is not left by going up, and at
the root of a path of files it makes the path one of this host.
-/
set_option autoImplicit false

namespace RunWatch.Url

inductive Path where
  /-- The path of an address that names no place in a tree. -/
  | plain (text : String)
  | segments (parts : List String)
  deriving DecidableEq, Repr

def isSlash (special : Bool) (c : Char) : Bool := c == '/' || (special && c == '\\')

def isPassedOver (c : Char) : Bool := c == '\t' || c == '\n' || c == '\r'

def bare (cs : List Char) : List Char := cs.filter (!isPassedOver ·)

def takeBare : Nat → List Char → List Char × List Char
  | 0, cs => ([], cs)
  | _, [] => ([], [])
  | n + 1, c :: cs =>
    if isPassedOver c then takeBare (n + 1) cs
    else
      let (head, rest) := takeBare n cs
      (c :: head, rest)

/-- A letter with a colon, or with a bar in its place. -/
def isDrive (cs : List Char) : Bool :=
  match cs with
  | [a, b] => a.isAlpha && (b == ':' || b == '|')
  | _ => false

/-- How many dots a segment is, when it is nothing else; a dot may be written with a percent
sign. -/
def dots : List Char → Option Nat
  | [] => some 0
  | '.' :: cs => (dots cs).map (· + 1)
  | '%' :: '2' :: e :: cs => if e = 'e' ∨ e = 'E' then (dots cs).map (· + 1) else none
  | _ => none

namespace Path

def text : Path → String
  | .plain t => t
  | .segments parts => String.join (parts.map ("/" ++ ·))

def encodeSegment (segment : List Char) : String :=
  String.ofList (Percent.encode Percent.path segment)

def holdsDrive (segment : String) : Bool :=
  let cs := segment.toList
  isDrive (cs.take 2) && ((cs.drop 2).isEmpty || cs[2]? = some '\\')

def goUp (parts : List String) : List String :=
  if parts.getLast?.any holdsDrive then parts else parts.dropLast

theorem goUp_append (parts : List String) (s : String) :
    goUp (parts ++ [s]) = if holdsDrive s then parts ++ [s] else parts := by
  simp [goUp]

/-- Takes one segment into a path. Both kinds of dots leave an empty segment at the end. -/
def push (parts : List String) (segment : List Char) (last : Bool) : List String :=
  let tail := if last then [""] else []
  match dots segment with
  | some 1 => parts ++ tail
  | some 2 => goUp parts ++ tail
  | _ => parts ++ [encodeSegment segment]

def pushAll (parts : List String) : List (List Char) → List String
  | [] => parts
  | [s] => push parts s true
  | s :: rest => pushAll (push parts s false) rest

def read (special : Bool) (cs : List Char) : Path :=
  .segments (pushAll [] (Text.splitOn (isSlash special) cs))

/-- A path behind an authority: it begins with a slash, or it is empty, which a special scheme takes
for the root. -/
def readAfter (special : Bool) : List Char → Path
  | [] => if special then .segments [""] else .segments []
  | _ :: cs => read special cs

end Path

/-- A path of files under way, and whether it is one of this host whatever host was named. -/
structure FilePath where
  parts : List String := []
  isLocal : Bool := false
  deriving DecidableEq, Repr

namespace FilePath

def partedDrive? (segment : List Char) : Option (List Char × List Char) :=
  let (drive, rest) := takeBare 2 segment
  if isDrive drive && drive.contains ':' && rest.head?.any isPassedOver && !(bare rest).isEmpty then
    some (drive, bare rest)
  else none

/-- Takes one segment into a path. At the root a drive is written with a colon, and what is parted
from it follows as it is. -/
def push (path : FilePath) (segment : List Char) (last : Bool) : FilePath :=
  let plain := { path with parts := Path.push path.parts (bare segment) last }
  if path.parts.isEmpty then
    match partedDrive? segment with
    | some (drive, rest) =>
      { path with parts := [String.ofList drive, Path.encodeSegment rest] }
    | none =>
      if isDrive (bare segment) then
        { parts := [String.ofList ((bare segment).take 1 ++ [':'])], isLocal := true }
      else plain
  else plain

def pushAll (path : FilePath) : List (List Char) → FilePath
  | [] => path
  | [s] => path.push s true
  | s :: rest => pushAll (path.push s false) rest

/-- A path behind its first slash, if it has one. Empty segments in front do not count. -/
def read (cs : List Char) : Path × Bool :=
  let behind :=
    match cs.dropWhile isPassedOver with
    | c :: rest => if isSlash true c then rest else cs
    | [] => []
  let path := pushAll {} (Text.splitOn (isSlash true) behind)
  let parts := path.parts.dropWhile (· = "")
  (.segments (if parts.isEmpty then [""] else parts), path.isLocal)

end FilePath

end RunWatch.Url
