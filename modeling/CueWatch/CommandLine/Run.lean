import CueWatch.CommandLine.Options
import CueWatch.Journal.Setup
import CueWatch.Session.Engine

/-!
Contract: a run of the program from the command line.

Owns:
- `run`: the checks of the file, the setting up of settings and journal, and then either the panel
  or the requested commands once each, with what is printed and the exit code;
- `OneShot`, the run of the requested commands.

Does not own: the options (`CommandLine.Options`), what the console makes of a text (`Console`) and
the panel (`Panel.App`). The text `No problems` is printed without the marks for its colour.
-/

namespace CueWatch.CommandLine

variable (console : Console)

/-- How a run ends. -/
inductive Ending where
  | returned
  | exited (code : Nat)
  | rejected (complaint : Text)
deriving DecidableEq, Repr

/-- A terminal with its host, what has been printed, and the panels that were opened on it: the
file and the workspace folder of each. -/
structure Terminal where
  host : Host
  printed : Text
  panels : List (Text × Option Text)

namespace Terminal

def onHost {α : Type} (step : Attempt Host α) : Attempt Terminal α :=
  Attempt.within Terminal.host (fun host terminal => { terminal with host := host }) step

def say (line : Text) : Attempt Terminal Unit :=
  Attempt.change fun terminal => { terminal with printed := terminal.printed ++ line ++ ['\n'] }

end Terminal

/-- The requested commands at work: the session, what has been printed, and the exit code so
far. -/
structure OneShot where
  session : Session
  printed : Text
  code : Nat

namespace OneShot

def onSession {α : Type} (step : Attempt Session α) : Attempt OneShot α :=
  Attempt.within OneShot.session (fun session shot => { shot with session := session }) step

def print (text : Text) : Attempt OneShot Unit :=
  Attempt.change fun shot => { shot with printed := shot.printed ++ text }

/-- Shows a text and ends the line. -/
def showLine (line : Text) : Attempt OneShot Unit := print (console.plain line ++ ['\n'])

def markFailed : Attempt OneShot Unit := Attempt.change fun shot => { shot with code := 1 }

def diagnosticLine (diagnostic : Diagnostic) : Text :=
  diagnostic.file ++ ":" ++ Text.signedDecimal (diagnostic.line + 1) ++ ":" ++
    Text.signedDecimal diagnostic.column ++ ": " ++ diagnostic.severity ++ ": " ++
    diagnostic.message

/-- Formats the file and says so. -/
def format : Attempt OneShot Unit := do
  onSession Session.format
  let session ← Attempt.look OneShot.session
  if session.state.lastError.isEmpty then
    let shown ← Attempt.ofExcept (console.marked ("Formatted " ++ session.source))
    print (shown ++ ['\n'])
  else
    showLine console session.state.lastError
    markFailed

/-- Lints the file and prints what is found. -/
def lint : Attempt OneShot Unit := do
  onSession Session.lint
  let state ← Attempt.look fun shot => shot.session.state
  if !state.lastError.isEmpty then
    showLine console state.lastError
    markFailed
  else
    state.diagnostics.forM fun diagnostic =>
      print (console.unwrapped (diagnosticLine diagnostic) ++ ['\n'])
    if state.hasErrors then markFailed else showLine console "No problems"

def expressionValue : OptionValue → Settings.Value
  | some expression => .text expression
  | none => .array []

def outTypeValue : Option OptionValue → Settings.Value
  | some (some name) => .text name
  | _ => .null

/-- Evaluates the file, or expressions in it, and prints the result. -/
def eval (expressions : List OptionValue) (outType : Option OptionValue) :
    Attempt OneShot Unit := do
  let file ← onSession
    (Session.evaluate (.array (expressions.map expressionValue)) (outTypeValue outType))
  let state ← Attempt.look fun shot => shot.session.state
  match file with
  | none =>
      showLine console state.lastError
      markFailed
  | some _ => print (console.plain state.evalOutput)

/-- The requested commands in order. -/
def commands (options : Options) : Attempt OneShot Unit := do
  onSession Session.reloadSource
  if options.fmt then format console
  if options.lint then lint console
  if options.eval || !options.expressions.isEmpty then
    eval console options.expressions options.out

/-- The requested commands; a missing `cue` program ends them with its complaint. -/
def commandsOrComplaint (options : Options) : Attempt OneShot Unit :=
  (commands console options).rescue fun failure =>
    if failure.isCueMissing then do
      print (failure.message ++ ['\n'])
      markFailed
    else Attempt.fail failure

def cleanup : Attempt OneShot Unit := do
  let scratch ← Attempt.look fun shot => shot.session.scratch
  onSession (Session.onHost scratch.cleanup)

/-- The requested commands, after which the scratch directory is removed in any case. -/
def run (options : Options) : Attempt OneShot Unit :=
  (commandsOrComplaint console options).ensuring cleanup

end OneShot

/-- The session with the flags of the command line, if there are any. -/
def withFlags (flags : Option OptionValue) (session : Session) : Except Failure Session :=
  match flags with
  | none => .ok session
  | some (some text) => .ok { session with lintFlags := .array (Cue.words (Text.words text)) }
  | some none => .error (.missingAttribute "'list' object has no attribute 'split'")

def runOnce (options : Options) (file : Text) (settings : Settings.Store)
    (workspace : Option Text) : Attempt Terminal Ending := do
  let session ← Terminal.onHost (Session.create file settings workspace)
  let session ← Attempt.ofExcept (withFlags options.flags session)
  fun terminal =>
    match OneShot.run console options ⟨{ session with host := terminal.host }, [], 0⟩ with
    | (result, shot) =>
        (result.map fun _ => .exited shot.code,
          { terminal with
            host := shot.session.host
            printed := terminal.printed ++ shot.printed })

/-- Opens the panel. It loads the settings again. What ends it may be given. -/
def openPanel (file : Text) (workspace : Option Text) (ending : Option Raised) :
    Attempt Terminal Unit := do
  let settings ← Terminal.onHost (Settings.Store.load none)
  let session ← Terminal.onHost (Session.create file settings workspace)
  Attempt.change fun terminal =>
    { terminal with panels := terminal.panels ++ [(session.source, session.workspaceFolder)] }
  match ending with
  | some error => Attempt.fail (.raised error)
  | none => pure ()

/-- How the interruption by the keyboard is called. -/
def keyboardInterrupt : Text := "KeyboardInterrupt"

def isKeyboardInterrupt : Failure → Bool
  | .raised error => error.label = keyboardInterrupt
  | _ => false

/-- Runs the panel. An interruption by the keyboard ends it quietly. -/
def runPanel (file : Text) (workspace : Option Text) (ending : Option Raised) :
    Attempt Terminal Ending :=
  (do openPanel file workspace ending; pure .returned : Attempt Terminal Ending).rescue
    fun failure =>
      if isKeyboardInterrupt failure then pure .returned
      else if failure.isInterrupt then Attempt.fail failure
      else do
        Terminal.say ("Fatal Error: " ++ failure.message)
        pure (.exited 1)

def isOneShot (options : Options) : Bool :=
  options.lint || options.eval || options.fmt || !options.expressions.isEmpty

/-- The workspace folder as an absolute path. -/
def workspaceFolder (given : Option OptionValue) (host : Host) : Except Failure (Option Text) :=
  match given with
  | some (some (c :: rest)) => (host.absolute (c :: rest)).map some
  | _ => .ok none

def logFile (settings : Settings.Store) : Text := (settings.directory.child "cuebolt.log").text

/-- Works on a file that has passed the checks. -/
def work (options : Options) (file : Text) (panelEnding : Option Raised) :
    Attempt Terminal Ending := do
  let settings ← Terminal.onHost (Settings.Store.load none)
  let _ ← Terminal.onHost
    (Journal.configure console settings.logLevel (some (logFile settings)) options.verbose)
  let workspace ← Attempt.ofExcept
    (← Attempt.look fun terminal => workspaceFolder options.workspace terminal.host)
  if isOneShot options then runOnce console options file settings workspace
  else runPanel file workspace panelEnding

def sayAndExit (line : Text) : Attempt Terminal Ending := do
  Terminal.say line
  pure (.exited 1)

/-- Checks the file and works on it. -/
def runOptions (options : Options) (panelEnding : Option Raised) : Attempt Terminal Ending := do
  match options.file with
  | some (c :: rest) =>
      let file ← Attempt.ofExcept
        (← Attempt.look fun terminal => terminal.host.absolute (c :: rest))
      if !(← Attempt.look fun terminal => terminal.host.exists? file) then
        sayAndExit ("Error: File not found: " ++ file)
      else if !isSource file then sayAndExit "Error: Active file is not a cue file"
      else work console options file panelEnding
  | _ =>
      Terminal.say "Error: No source file specified."
      sayAndExit "Usage: cuebolt <filename.cue>"

/-- Runs the program with the arguments of a command line. -/
def run (arguments : List Text) (panelEnding : Option Raised) : Attempt Terminal Ending := do
  match parse arguments with
  | .ok options => runOptions console options panelEnding
  | .error .help =>
      Attempt.change fun terminal => { terminal with printed := terminal.printed ++ helpText }
      pure (.exited 0)
  | .error (.complaint message) => pure (.rejected (complaintLine message))

end CueWatch.CommandLine
