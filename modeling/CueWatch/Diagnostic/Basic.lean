import CueWatch.Text.Basic

/-!
Contract: one finding about a source file.

Owns:
- `Diagnostic` and the points at which it starts and ends.

Does not own: reading findings from a report (`Diagnostic.Report`).
-/

namespace CueWatch

/-- A finding: the line counted from zero, the column counted from one, how severe it is, what it
says and the file it is about. -/
structure Diagnostic where
  line : Int
  column : Int
  severity : Text
  message : Text
  file : Text
deriving DecidableEq, Repr

namespace Diagnostic

/-- The severity of everything that a report says. -/
def errorSeverity : Text := "error"

def startPoint (diagnostic : Diagnostic) : Int × Int := (diagnostic.line, diagnostic.column)

/-- Where a finding ends: reports give single points. -/
def endPoint (diagnostic : Diagnostic) : Int × Int := (diagnostic.line, diagnostic.column)

end Diagnostic

end CueWatch
