import OperatorConfig.Text.Percent
import OperatorConfig.Url.Basic

/-!
# Paths of URLs

A path is read segment by segment. A segment of one dot leaves the path as it is, and one of two dots
takes the last segment away; either dot may be written as a byte. A file path that begins with a drive
letter keeps it, and what follows the letter is set off by a slash.
-/

namespace OperatorConfig.Url.Path

/-- Whether the text is a letter with a colon or a bar. -/
def isDrive (cs : List Char) : Bool :=
  match cs with
  | [letter, mark] => letter.isAlpha && (mark = ':' || mark = '|')
  | _ => false

/-- Whether a drive letter stands at the beginning, alone or before a separator. -/
def beginsWithDrive (cs : List Char) : Bool :=
  isDrive (cs.take 2) &&
    match cs.drop 2 with
    | [] => true
    | c :: _ => c = '/' || c = '\\' || c = '?' || c = '#'

def upToSlash (path : List Char) : List Char :=
  (path.reverse.dropWhile (· ≠ '/')).reverse

/-- The last segment of a path that ends in a slash, with the slash before it. -/
def lastSegment (path : List Char) : Option (List Char) :=
  let inner := path.dropLast
  if inner.contains '/' then some (path.drop ((upToSlash inner).length - 1)) else none

def parent (path : List Char) : List Char :=
  match lastSegment path with
  | some ('/' :: segment) =>
      if beginsWithDrive segment then upToSlash path else upToSlash path.dropLast
  | _ => upToSlash path

/-- What a dot in a segment may be written as. -/
def dots : List (List Char) := [['.'], ['%', '2', 'e'], ['%', '2', 'E']]

def isOneDot (segment : List Char) : Bool :=
  dots.contains segment

def isTwoDots (segment : List Char) : Bool :=
  dots.any fun first => dots.any fun second => segment = first ++ second

/-- What has been read of a path. -/
structure Progress where
  path : List Char
  /-- Whether a drive letter takes the place of the host. -/
  onDrive : Bool := false

/-- Adds a segment, which a slash may follow. -/
def Progress.add (kind : Kind) (progress : Progress) (segment : List Char) (slash : Bool) : Progress :=
  let ending := if slash then ['/'] else []
  if isTwoDots segment then { progress with path := parent progress.path }
  else if isOneDot segment then progress
  else if kind = .file ∧ progress.path.length = 1 ∧ isDrive segment then
    { path := progress.path ++ segment.take 1 ++ [':'] ++ ending, onDrive := true }
  else { progress with path := progress.path ++ segment ++ ending }

def isSeparator (kind : Kind) (c : Char) : Bool :=
  c = '/' || (kind.isSpecial && c = '\\')

/-- Reads segments; `segment` is what has been read of the one under way, in reverse. -/
def segments (kind : Kind) (progress : Progress) (segment : List Char) : List Char → Progress
  | [] => progress.add kind (Text.Percent.encodeChars Text.Percent.path segment.reverse) false
  | c :: rest =>
      if isSeparator kind c then
        segments kind
          (progress.add kind (Text.Percent.encodeChars Text.Percent.path segment.reverse) true) [] rest
      else
        match segment with
        | [mark, letter] =>
            if kind = .file ∧ progress.path.length = 1 ∧ isDrive [letter, mark] then
              segments kind { progress with path := progress.path ++ [letter] } [c, '/', mark] rest
            else segments kind progress (c :: segment) rest
        | _ => segments kind progress (c :: segment) rest

def readBehind (kind : Kind) (start : List Char) (cs : List Char) : Progress :=
  let progress := segments kind { path := start } [] cs
  if kind = .file then
    { progress with path := '/' :: progress.path.dropWhile (· = '/') }
  else progress

/-- A path behind an authority; `afterSlash` tells whether that ends in a slash. -/
def read (kind : Kind) (afterSlash : Bool) (cs : List Char) : Progress :=
  if kind.isSpecial then
    if afterSlash then readBehind kind [] cs
    else
      match cs with
      | c :: rest => readBehind kind ['/'] (if isSeparator kind c then rest else cs)
      | [] => readBehind kind ['/'] []
  else
    match cs with
    | [] => readBehind kind [] []
    | '/' :: _ => readBehind kind [] cs
    | _ => readBehind kind ['/'] cs

def readOpaque (cs : List Char) : List Char :=
  Text.Percent.encodeChars Text.Percent.control cs

end OperatorConfig.Url.Path
