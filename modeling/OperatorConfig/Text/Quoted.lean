import OperatorConfig.Text.Unprintable

/-!
# Quoted text

The form in which an error shows a text it complains about: in double quotes, with a backslash before
quotes and backslashes, short names for the common controls, and numbers for what would not show.
-/

namespace OperatorConfig.Text

def hex (n : Nat) : String :=
  String.ofList (Nat.toDigits 16 n)

def quotedChar (c : Char) : String :=
  match c with
  | '\x00' => "\\0"
  | '\t' => "\\t"
  | '\r' => "\\r"
  | '\n' => "\\n"
  | '"' => "\\\""
  | '\\' => "\\\\"
  | c =>
      if isExtending c || isUnprintable c then "\\u\x7b" ++ hex c.toNat ++ "\x7d"
      else c.toString

def quoted (s : String) : String :=
  "\"" ++ s.toList.foldl (fun shown c => shown ++ quotedChar c) "" ++ "\""

end OperatorConfig.Text
