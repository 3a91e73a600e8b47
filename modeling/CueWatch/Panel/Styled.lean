import CueWatch.Text.Control

/-!
Contract: text with styles on parts of it.

Owns:
- `Styled`, a text, the style of the whole and the spans with styles of their own;
- `append`, which drops control characters and adds a span for styled, non-empty text.

Does not own: what is shown (`Panel.Findings`, `Panel.EvalPane`).
-/

namespace CueWatch.Panel

structure Span where
  first : Nat
  last : Nat
  style : Text
deriving DecidableEq, Repr

structure Styled where
  plain : Text
  style : Text
  spans : List Span
deriving DecidableEq, Repr

namespace Styled

def empty : Styled := ⟨[], [], []⟩

/-- A text in one style. -/
def ofText (t style : Text) : Styled := ⟨Text.withoutControls t, style, []⟩

/-- The text with more text after it, in a style if there is one. Text that is empty from the start
adds no span. -/
def append (styled : Styled) (t style : Text) : Styled :=
  let shown := Text.withoutControls t
  let start := styled.plain.length
  { styled with
    plain := styled.plain ++ shown
    spans :=
      if t.isEmpty || style.isEmpty then styled.spans
      else styled.spans ++ [⟨start, start + shown.length, style⟩] }

end Styled

end CueWatch.Panel
