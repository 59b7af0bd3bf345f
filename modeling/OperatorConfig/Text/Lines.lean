/-!
# Lines

A text as the pieces between its line feeds.
-/

namespace OperatorConfig.Text

/-- The pieces between the separators, one more than there are separators. -/
def splitAt (separator : Char) : List Char → List (List Char)
  | [] => [[]]
  | c :: rest =>
      if c = separator then [] :: splitAt separator rest
      else
        match splitAt separator rest with
        | [] => [[c]]
        | piece :: pieces => (c :: piece) :: pieces

/-- What stands before and after the first separator. -/
def splitFirst (separator : Char) : List Char → Option (List Char × List Char)
  | [] => none
  | c :: rest =>
      if c = separator then some ([], rest)
      else (splitFirst separator rest).map fun (before, after) => (c :: before, after)

end OperatorConfig.Text
