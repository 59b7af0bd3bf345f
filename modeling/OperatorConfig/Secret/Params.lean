import OperatorConfig.Table
import OperatorConfig.Text.Blank
import OperatorConfig.Text.Lines

/-!
# The one-text layout of stored secrets

An older layout keeps all secrets in one text with a line `NAME=VALUE` for each. Spaces, tabs and
carriage returns at the ends of a line do not count, the first equals sign ends the name, and a line
without one says nothing.
-/

namespace OperatorConfig.Params

/-- Whether the character does not count at the ends of a line. -/
def isPadding (c : Char) : Bool :=
  c = ' ' || c = '\r' || c = '\t'

def entry? (line : List Char) : Option (String × String) :=
  (Text.splitFirst '=' (Text.trimWhile isPadding line)).map fun (name, value) =>
    (String.ofList name, String.ofList value)

/-- The entries of a text; a later line replaces an earlier one of the same name. -/
def parse (blob : String) : Table :=
  Table.ofList ((Text.splitAt '\n' blob.toList).filterMap entry?)

/-- The text with a line for each entry, ended by `lineEnd`. -/
def render (lineEnd : String) (table : Table) : String :=
  table.entries.foldl (fun blob entry => blob ++ entry.1 ++ "=" ++ entry.2 ++ lineEnd) ""

end OperatorConfig.Params
