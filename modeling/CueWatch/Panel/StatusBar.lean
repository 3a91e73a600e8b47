import CueWatch.Text.Digit

/-!
Contract: the status bar of the panel.

Owns:
- `StatusBar`, what it tells, and `StatusBar.text`, how it tells it;
- `Change`, new values for some of its parts.

Does not own: when it changes (`Panel.App`).
-/

namespace CueWatch.Panel

/-- What the status bar tells. -/
structure StatusBar where
  file : Text
  root : Text
  flags : Text
  status : Text
  errors : Int
deriving DecidableEq, Repr

namespace StatusBar

def initial : StatusBar := ⟨[], [], [], "idle", 0⟩

/-- New values for some parts of the bar. -/
structure Change where
  file : Option Text
  root : Option Text
  flags : Option Text
  status : Option Text
  errors : Option Int
deriving DecidableEq, Repr

def Change.none : Change := ⟨.none, .none, .none, .none, .none⟩

def apply (bar : StatusBar) (change : Change) : StatusBar :=
  { file := change.file.getD bar.file
    root := change.root.getD bar.root
    flags := change.flags.getD bar.flags
    status := change.status.getD bar.status
    errors := change.errors.getD bar.errors }

/-- A part with its mark, if there is anything to tell. -/
def part (mark value : Text) : List Text := if value.isEmpty then [] else [mark ++ value]

/-- The number of errors, unless it is zero. -/
def errorPart (errors : Int) : List Text :=
  if errors = 0 then [] else ["❌ " ++ Text.signedDecimal errors ++ " error(s)"]

def text (bar : StatusBar) : Text :=
  Text.join "  │  "
    (part "📄 " bar.file ++ part "📦 " bar.root ++ part "⚙  " bar.flags ++
      ["● " ++ bar.status] ++ errorPart bar.errors)

end StatusBar

end CueWatch.Panel
