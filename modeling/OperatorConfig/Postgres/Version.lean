import OperatorConfig.Failure
import OperatorConfig.Text.Blank
import OperatorConfig.Text.Lines
import OperatorConfig.Text.Pattern

/-!
# Versions in banners

A server or a tool tells its version in a banner such as `PostgreSQL 10.6 (Debian 10.6-1.pgdg90+1)`. The
version is the last place in the first line where a space is followed by two numbers with a point
between them. Of a banner that goes on to name the platform (` on x86_64, compiled by …`) only what
stands before counts, because a compiler has a version too.
-/

namespace OperatorConfig.Postgres

structure Version where
  major : UInt32
  minor : UInt32
deriving DecidableEq

namespace Version

/-- By the first number, and by the second where the first are equal. -/
instance : Ord Version where
  compare a b := (compare a.major b.major).then (compare a.minor b.minor)

instance : LT Version where
  lt a b := a.major < b.major ∨ (a.major = b.major ∧ a.minor < b.minor)

instance (a b : Version) : Decidable (a < b) :=
  inferInstanceAs (Decidable (a.major < b.major ∨ (a.major = b.major ∧ a.minor < b.minor)))

def text (version : Version) : String :=
  s!"{version.major}.{version.minor}"

end Version

namespace Banner

open Text (Pattern)

/-- A point and a number, which may follow. -/
def patch : Pattern := .optional (Pattern.one (.exactly '.') ++ Pattern.oneOrMore .digit)

/-- Behind a space two numbers with a point between them. -/
def numbers : Pattern :=
  Pattern.one (.exactly ' ') ++ (Pattern.group 1 (.oneOrMore .digit) ++ Pattern.one (.exactly '.'))
    ++ Pattern.group 2 (.oneOrMore .digit) ++ patch ++ Pattern.optional (.one (.exactly ' '))

/-- The numbers that stand last in the first line, `^.* (\d+)\.(\d+)(?:\.\d+)? ?`. -/
def pattern : Pattern := Pattern.start ++ (Pattern.many .inLine ++ numbers)

/-- The word that introduces the platform. -/
def platformMark : List Char := [' ', 'o', 'n', ' ']

/-- What stands before the platform. -/
def release : List Char → List Char
  | [] => []
  | c :: rest => if platformMark.isPrefixOf (c :: rest) then [] else c :: release rest

/-- The number that digits denote, if it has 32 bits. -/
def number? (digits : List Char) : Option UInt32 :=
  (Text.digitsValue? digits).bind fun n =>
    if n < UInt32.size then some (UInt32.ofNat n) else none

/-- The version that a banner tells. -/
def version? (banner : String) : Option Version := do
  let groups ← pattern.captures? (Text.dropEndWhile Text.isBlank (release banner.toList))
  let major ← (groups.lookup 1).bind number?
  let minor ← (groups.lookup 2).bind number?
  return ⟨major, minor⟩

def parse (banner : String) : Except Failure Version :=
  match version? banner with
  | some version => .ok version
  | none =>
      .error (.versionProbe
        s!"Unable to parse PostgreSQL version from version string: `{Text.trim banner}`")

end Banner

end OperatorConfig.Postgres
