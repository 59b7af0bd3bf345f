import OperatorConfig.Yaml.Folding

/-!
# Plain scalars

A scalar without quotes ends before a comment, a colon with a blank behind it, a mark between documents
or a line that is not indented enough; inside brackets and braces also before a comma or a bracket.
-/

namespace OperatorConfig.Yaml

structure Plain where
  text : String
  rest : Cursor
  /-- Whether the blank space behind it has ended its line. -/
  endsLine : Bool

def isFlowMark (c : Char) : Bool := c = ',' || c = '[' || c = ']' || c = '\x7b' || c = '\x7d'

/-- Whether a colon before `rest` is neither the end of a key nor part of a scalar. -/
def strayColonBefore : List Char → Bool
  | [] => false
  | c :: _ => isFlowMark c || c = '?'

/-- Goes on with a plain scalar that began at `start`; `text` is what was read, last character first,
and lines must be indented by `indent`. -/
def plainFrom (inFlow : Bool) (indent : Nat) (start : Mark) :
    Gap → List Char → List Char → Mark → Except Fault Plain
  | gap, text, [], mark => .ok ⟨String.ofList text.reverse, ⟨[], mark⟩, gap.hasBreak⟩
  | gap, text, c :: rest, mark =>
      let ended : Except Fault Plain :=
        .ok ⟨String.ofList text.reverse, ⟨c :: rest, mark⟩, gap.hasBreak⟩
      if isBlank c then
        if gap.hasBreak && mark.column < indent && c = '\t' then
          .error (.grammar .tabAgainstIndentation mark (some (.plainScalar, start)))
        else plainFrom inFlow indent start (gap.add c) text rest (mark.after c)
      else if isBreak c then
        plainFrom inFlow indent start (gap.add c) text rest (mark.after c)
      else if gap.isSome && (c = '#' || !inFlow && mark.column < indent
          || mark.column = 0 && documentMarkNext (c :: rest)) then ended
      else if inFlow && c = ':' && strayColonBefore rest then
        .error (.grammar .strayColon mark (some (.plainScalar, start)))
      else if c = ':' && blankNext rest || inFlow && isFlowMark c then ended
      else plainFrom inFlow indent start .none (c :: (gap.folded ++ text)) rest (mark.after c)

def Cursor.plain (inFlow : Bool) (indent : Nat) (cursor : Cursor) : Except Fault Plain :=
  plainFrom inFlow indent cursor.mark .none [] cursor.rest cursor.mark

end OperatorConfig.Yaml
