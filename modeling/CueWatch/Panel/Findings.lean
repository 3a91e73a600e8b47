import CueWatch.Diagnostic.Basic
import CueWatch.Failure
import CueWatch.Panel.Styled
import CueWatch.Text.Blank
import CueWatch.Text.Digit

/-!
Contract: findings as the panel shows them.

Owns:
- `render`: for each finding its place, its message, and below them the line of source it is about;
- `shown`, which fails instead on findings with numbers that are too long to be written.

Does not own: where the lines of source come from (`Session.State`).
-/

namespace CueWatch.Panel.Findings

def placeStyle : Text := "bold #9FBFC5"

def messageStyle : Text := "#a80000"

def excerptStyle : Text := "dim"

/-- A finding's place: lines are counted from one here. -/
def place (diagnostic : Diagnostic) : Text :=
  diagnostic.file ++ ":" ++ Text.signedDecimal (diagnostic.line + 1) ++ ":" ++
    Text.signedDecimal diagnostic.column

/-- A finding's message; an empty one is replaced. -/
def message (diagnostic : Diagnostic) : Text :=
  if diagnostic.message.isEmpty then "(no message)" else diagnostic.message

/-- The line of source that a finding is about, without blanks at its end. -/
def excerpt? (sourceLines : List Text) (diagnostic : Diagnostic) : Option Text :=
  if diagnostic.line < 0 then none
  else sourceLines[diagnostic.line.toNat]?.map Text.trimEnd

/-- The text with one more finding. -/
def appendFinding (sourceLines : List Text) (styled : Styled) (diagnostic : Diagnostic) : Styled :=
  let styled := styled.append (place diagnostic) placeStyle
  let styled := styled.append "  " []
  let styled := styled.append (message diagnostic) messageStyle
  match excerpt? sourceLines diagnostic with
  | some line => (styled.append "\n    " []).append line excerptStyle
  | none => styled

/-- The text with more findings, each after a newline. -/
def appendMore (sourceLines : List Text) (styled : Styled) (diagnostics : List Diagnostic) :
    Styled :=
  diagnostics.foldl
    (fun styled diagnostic => appendFinding sourceLines (styled.append "\n" []) diagnostic) styled

/-- What is shown when there is nothing to show. -/
def allClear : Styled := Styled.ofText "✔ No problems" "bold green"

def render (diagnostics : List Diagnostic) (sourceLines : List Text) : Styled :=
  match diagnostics with
  | [] => allClear
  | first :: more => appendMore sourceLines (appendFinding sourceLines .empty first) more

/-- Whether a number has no more digits than are written. -/
def isWritable (number : Int) : Bool :=
  (Text.decimal number.natAbs).length ≤ Failure.digitLimit

/-- Whether the place of a finding can be written. -/
def isPlaceable (diagnostic : Diagnostic) : Bool :=
  isWritable (diagnostic.line + 1) && isWritable diagnostic.column

/-- The rendering of findings from anywhere. Those of a report are always placeable. -/
def shown (diagnostics : List Diagnostic) (sourceLines : List Text) : Except Failure Styled :=
  if diagnostics.all isPlaceable then .ok (render diagnostics sourceLines)
  else .error .unwritableNumber

end CueWatch.Panel.Findings
