import OperatorConfig.Text.Digit

/-!
# Durations as text

A duration is written in its greatest unit: seconds from one second on, with as many places as it needs,
and milliseconds below.
-/

namespace OperatorConfig.Text

/-- The places behind the point of a number of thousandths, without zeros at the end. -/
def places (thousandths : Nat) : List Char :=
  let digits := [thousandths / 100, thousandths / 10 % 10, thousandths % 10]
  (digits.reverse.dropWhile (· = 0)).reverse.map Nat.digitChar

def duration (milliseconds : Nat) : String :=
  if milliseconds = 0 then "0ns"
  else if milliseconds < 1000 then s!"{milliseconds}ms"
  else
    match places (milliseconds % 1000) with
    | [] => s!"{milliseconds / 1000}s"
    | places => s!"{milliseconds / 1000}." ++ String.ofList places ++ "s"

end OperatorConfig.Text
