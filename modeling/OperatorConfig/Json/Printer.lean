import OperatorConfig.Decimal.Shortest
import OperatorConfig.Json.Basic
import OperatorConfig.Text.Quoted

/-!
# JSON texts of values

Two layouts: compact, without any blank, and indented by two spaces a level. Quotes, backslashes and
controls are escaped, and all other characters stand as they are.
-/

namespace OperatorConfig.Json

def escapedChar (c : Char) : String :=
  match c with
  | '"' => "\\\""
  | '\\' => "\\\\"
  | '\x08' => "\\b"
  | '\x0c' => "\\f"
  | '\n' => "\\n"
  | '\r' => "\\r"
  | '\t' => "\\t"
  | c =>
      if c.toNat < 0x20 then
        "\\u00" ++ (if c.toNat < 0x10 then "0" else "") ++ Text.hex c.toNat
      else c.toString

def quoteText (s : String) : String :=
  "\"" ++ s.toList.foldl (fun shown c => shown ++ escapedChar c) "" ++ "\""

def Number.render : Number → String
  | .integer value => toString value
  | .float value => value.text

mutual
def compact : Json → String
  | .null => "null"
  | .flag true => "true"
  | .flag false => "false"
  | .number value => value.render
  | .text value => quoteText value
  | .array items => "[" ++ compactItems items ++ "]"
  | .object members => "\x7b" ++ compactMembers members ++ "\x7d"
def compactItems : List Json → String
  | [] => ""
  | [item] => item.compact
  | item :: rest => item.compact ++ "," ++ compactItems rest
def compactMembers : List (String × Json) → String
  | [] => ""
  | [(key, value)] => quoteText key ++ ":" ++ value.compact
  | (key, value) :: rest => quoteText key ++ ":" ++ value.compact ++ "," ++ compactMembers rest
end

/-- The beginning of a line at a level. -/
def lineAt (level : Nat) : String :=
  "\n" ++ String.ofList (List.replicate (2 * level) ' ')

mutual
/-- The indented text of a value that begins at a level. -/
def prettyAt (level : Nat) : Json → String
  | .null => "null"
  | .flag true => "true"
  | .flag false => "false"
  | .number value => value.render
  | .text value => quoteText value
  | .array [] => "[]"
  | .array items => "[" ++ prettyItems (level + 1) items ++ lineAt level ++ "]"
  | .object [] => "\x7b\x7d"
  | .object members => "\x7b" ++ prettyMembers (level + 1) members ++ lineAt level ++ "\x7d"
def prettyItems (level : Nat) : List Json → String
  | [] => ""
  | [item] => lineAt level ++ item.prettyAt level
  | item :: rest => lineAt level ++ item.prettyAt level ++ "," ++ prettyItems level rest
def prettyMembers (level : Nat) : List (String × Json) → String
  | [] => ""
  | [(key, value)] => lineAt level ++ quoteText key ++ ": " ++ value.prettyAt level
  | (key, value) :: rest =>
      lineAt level ++ quoteText key ++ ": " ++ value.prettyAt level ++ ","
        ++ prettyMembers level rest
end

def pretty (value : Json) : String := value.prettyAt 0

end OperatorConfig.Json
