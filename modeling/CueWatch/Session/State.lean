import CueWatch.Diagnostic.Basic
import CueWatch.Settings.Value
import CueWatch.Text.Lines

/-!
Contract: what a session knows about its file, and what is shown of it.

Owns:
- `State`, and its changes after a lint and after an evaluation;
- the lines of the source.

Does not own: how lints and evaluations are done (`Session.Engine`).
-/

namespace CueWatch.Session

/-- What is known about the file of a session. -/
structure State where
  sourceCode : Text
  moduleRoot : Text
  /-- The report of the last lint. -/
  compilerOutput : Text
  lintFlags : List Settings.Value
  diagnostics : List Diagnostic
  evalOutput : Text
  evalOutType : Settings.Value
  /-- The file that the last evaluation was written to. -/
  evalFile : Option Text
  statusMessage : Text
  /-- Why the last command failed; empty if it did not. -/
  lastError : Text
deriving DecidableEq, Repr

namespace State

def initial : State :=
  { sourceCode := []
    moduleRoot := []
    compilerOutput := []
    lintFlags := []
    diagnostics := []
    evalOutput := []
    evalOutType := .text "cue"
    evalFile := none
    statusMessage := []
    lastError := [] }

/-- Whether any finding is an error. -/
def hasErrors (state : State) : Bool :=
  state.diagnostics.any fun diagnostic => diagnostic.severity = Diagnostic.errorSeverity

def sourceLines (state : State) : List Text := Text.sourceLines state.sourceCode

def withLint (report : Text) (diagnostics : List Diagnostic) (state : State) : State :=
  { state with compilerOutput := report, diagnostics := diagnostics }

def withEval (output : Text) (outType : Settings.Value) (file : Option Text) (state : State) :
    State :=
  { state with evalOutput := output, evalOutType := outType, evalFile := file }

def withStatus (message : Text) (state : State) : State :=
  { state with statusMessage := message }

/-- The state with the reason why the last command failed. -/
def withError (message : Text) (state : State) : State := { state with lastError := message }

end State

end CueWatch.Session
