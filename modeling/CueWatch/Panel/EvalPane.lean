import CueWatch.Panel.Styled

/-!
Contract: the result of an evaluation as the panel shows it.

Owns:
- `render`: a heading that names the format, and the output.

Does not own: the evaluation (`Session.Engine`).
-/

namespace CueWatch.Panel.EvalPane

def style : Text := "bold #9FBFC5"

def heading (outType : Text) : Text := "── eval (" ++ outType ++ ") ──\n"

def render (output outType : Text) : Styled :=
  (Styled.ofText (heading outType) style).append output []

end CueWatch.Panel.EvalPane
