import OperatorConfig.Json.Printer
import OperatorConfig.Yaml.Style

/-!
# YAML texts of values

A value in block style: members and items each begin a line, the members of a mapping stand two columns
further in than it, and the items of a sequence stand under the key that they belong to. An empty
mapping or sequence is a pair of brackets. A key that is long or has several lines is introduced by a
question mark.
-/

namespace OperatorConfig.Yaml

open Style (margin)

/-- The greatest number of bytes of a key that stands before its colon. -/
def longestKey : Nat := 128

def isSimpleKey (key : String) : Bool :=
  key.utf8ByteSize ≤ longestKey && key.toList.all fun c => !Style.isBreak c

/-- A text, whose further lines have a margin. -/
def scalar (width : Nat) (s : String) : String :=
  (Style.ofText s).write width s

/-- Ends a line, unless it has ended. -/
def ended (line : String) : String :=
  if line.toList.getLast?.any Style.isBreak then line else line ++ "\n"

mutual
/-- A value behind the colon of a key whose line has a margin of `width`. -/
def behindKey (width : Nat) : Json → String
  | .null => " null\n"
  | .flag true => " true\n"
  | .flag false => " false\n"
  | .number value => " " ++ value.render ++ "\n"
  | .text s => ended (" " ++ scalar (width + 2) s)
  | .array [] => " []\n"
  | .array items => "\n" ++ itemLines width (margin width) items
  | .object [] => " \x7b\x7d\n"
  | .object members => "\n" ++ memberLines (width + 2) (margin (width + 2)) members
/-- A value behind the mark of an item, or of a long key or its value, whose line has a margin of
`width`. -/
def behindMark (width : Nat) : Json → String
  | .null => " null\n"
  | .flag true => " true\n"
  | .flag false => " false\n"
  | .number value => " " ++ value.render ++ "\n"
  | .text s => ended (" " ++ scalar (width + 2) s)
  | .array [] => " []\n"
  | .array items => itemLines (width + 2) " " items
  | .object [] => " \x7b\x7d\n"
  | .object members => memberLines (width + 2) " " members
/-- Members, the first behind `lead` and the others behind a margin. -/
def memberLines (width : Nat) (lead : String) : List (String × Json) → String
  | [] => ""
  | (key, value) :: rest =>
      (if isSimpleKey key then
        lead ++ scalar (width + 2) key ++ ":" ++ behindKey width value
      else
        lead ++ ended ("? " ++ scalar (width + 2) key) ++ margin width ++ ":" ++ behindMark width value)
      ++ memberLines width (margin width) rest
def itemLines (width : Nat) (lead : String) : List Json → String
  | [] => ""
  | item :: rest => lead ++ "-" ++ behindMark width item ++ itemLines width (margin width) rest
end

def render : Json → String
  | .null => "null\n"
  | .flag true => "true\n"
  | .flag false => "false\n"
  | .number value => value.render ++ "\n"
  | .text s => ended (scalar 2 s)
  | .array [] => "[]\n"
  | .array items => itemLines 0 "" items
  | .object [] => "\x7b\x7d\n"
  | .object members => memberLines 0 "" members

end OperatorConfig.Yaml
