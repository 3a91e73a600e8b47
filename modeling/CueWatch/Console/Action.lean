import CueWatch.Console.Literal.Value
import CueWatch.Text.Blank

/-!
Contract: the actions that tags of the console can name.

An action is written as the name of a handler with a literal value in parentheses, either of which
may be missing, or as a literal value without parentheses around it.

Owns:
- `isAction`, whether a text is written so.

Does not own: literal values (`Console.Literal.Value`), and what an action does.
-/

namespace CueWatch.Console.Action

/-- Whether a text is what may follow the name of a handler: nothing, or parentheses on one line. -/
def isInParentheses (t : Text) : Bool :=
  t.isEmpty ||
    (t.head? = some '(' && t.getLast? = some ')' && 1 < t.length && !t.contains '\n')

def isAction (t : Text) : Bool :=
  let trimmed := Text.trim t
  let after := trimmed.dropWhile fun c => Text.isWordChar c || c = '.'
  if after.isEmpty then true
  else if isInParentheses after then Literal.isLiteral after
  else Literal.isLiteral trimmed

end CueWatch.Console.Action
