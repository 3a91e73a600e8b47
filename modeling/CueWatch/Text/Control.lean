import CueWatch.Text.Basic

/-!
Contract: the control characters that no display shows.

Owns:
- `isHiddenControl` and `withoutControls`.

Does not own: tabs and newlines, which displays do show.
-/

namespace CueWatch.Text

/-- The control characters that a display drops: bell, backspace, vertical tab, form feed and
carriage return. -/
def isHiddenControl (c : Char) : Bool :=
  let n := c.toNat
  n == 7 || n == 8 || n == 11 || n == 12 || n == 13

/-- The text without the control characters that a display drops. -/
def withoutControls (t : Text) : Text := t.filter fun c => !isHiddenControl c

end CueWatch.Text
