import CueWatch.Diagnostic.Report
import CueWatch.Session.Basic

/-!
Contract: the commands of a session.

Owns:
- linting, evaluating and formatting the file, with the reporting of failures;
- starting and stopping, and what is done when the file is saved;
- changing flags, lint on save and output type.

A missing `cue` program and an interruption fail the command; every other failure of a lint, an
evaluation or a format ends up in the state.

Does not own: what the listener does with a change (`Panel`, `CommandLine`).
-/

namespace CueWatch.Session

/-- What to do when no module root is found. -/
def moduleRootGuidance : Text :=
  "No cue.mod found between this file and the workspace root. " ++
    "Run `cue mod init` in your module directory or set `module_root` " ++
    "in ~/.cuebolt/config.json."

/-- The commands whose failures are reported. -/
inductive Action where
  | lint
  | evaluate
  | format
deriving DecidableEq, Repr

def Action.name : Action → Text
  | .lint => "lint"
  | .evaluate => "evaluate"
  | .format => "format"

def failureMessage (action : Action) : Failure → Text
  | .rootNotFound _ _ => moduleRootGuidance
  | .unreadableDirectory path cause =>
      "Failed to " ++ action.name ++ " file, cannot read " ++ path ++ ": " ++ cause.message
  | failure => "Failed to " ++ action.name ++ " file, error: " ++ failure.message

/-- Puts the message about a failed command into the state. -/
def report (action : Action) (failure : Failure) : Attempt Session Unit := do
  let message := failureMessage action failure
  updateState fun state => (state.withStatus message).withError message
  onHost (Host.log .error (action.name ++ " failed: " ++ failure.message))

/-- Whether a failure ends a command instead of being reported. -/
def escapes (failure : Failure) : Bool := failure.isCueMissing || failure.isInterrupt

/-- Runs a command: the last error is forgotten, a failure that does not escape is reported and
replaced by a value, and the listener is told. -/
def perform {α : Type} (action : Action) (otherwise : α) (body : Attempt Session α) :
    Attempt Session α := do
  updateState (State.withError [])
  let result ← body.rescue fun failure => do
    if escapes failure then Attempt.fail failure
    else
      report action failure
      pure otherwise
  notify
  pure result

/-- Finds the module root of the file and remembers it. -/
def findModuleRoot : Attempt Session Text := do
  let session ← Attempt.look id
  let root ← onHost
    (ModuleRoot.ofFile session.settings session.source session.workspaceFolder)
  updateState fun state => { state with moduleRoot := root }
  pure root

/-- Publishes the findings of the file. -/
def publish (path : Text) (diagnostics : List Diagnostic) : Attempt Session Unit := do
  let published ← Attempt.require fun session =>
    session.published.publish path diagnostics session.host
  Attempt.change fun session => { session with published := published }

def lintMessage (diagnostics : List Diagnostic) : Text :=
  if diagnostics.isEmpty then "No problems"
  else Text.decimal diagnostics.length ++ " error(s)"

/-- Runs `cue vet` on the file from its module root. -/
def vet : Attempt Session ProcessResult := do
  let root ← findModuleRoot
  let session ← Attempt.look id
  let result ← onHost (session.cue.vet session.source session.lintFlags (some root))
  onHost (Host.log .debug ("vet stderr:\n" ++ result.stderr))
  pure result

/-- Publishes what a report says about the file. -/
def digest (report : Text) : Attempt Session Unit := do
  let diagnostics ← Attempt.ofExcept (Report.parse report)
  let source ← Attempt.look Session.source
  publish source diagnostics
  updateState fun state =>
    (state.withLint report diagnostics).withStatus (lintMessage diagnostics)

/-- Lints the file from its module root and publishes what is found. -/
def lintBody : Attempt Session Unit := do
  let result ← vet
  digest result.stderr

def lint : Attempt Session Unit := do
  let session ← Attempt.look id
  onHost (Host.log .info
    ("Linting " ++ session.source ++ " with flags " ++ session.lintFlags.shown))
  perform .lint () lintBody

/-- The output type of an evaluation: the one asked for, if it is set. -/
def chosenOutType (asked : Settings.Value) (state : State) : Settings.Value :=
  if asked.isSet then asked else state.evalOutType

/-- The directory of evaluations: the boundary of module roots, whether or not it is one. -/
def evalDirectory (session : Session) : Except Failure Text :=
  ModuleRoot.boundary session.settings session.workspaceFolder session.host

/-- The file of an evaluation in a directory. -/
def evalFileIn (directory : Text) (format : OutType) : Text :=
  Spelling.append directory ("eval." ++ format.extension)

/-- Evaluates the file, or the items of a value as expressions in it, and writes what is printed to
a fresh file. -/
def evaluateBody (expressions outType : Settings.Value) : Attempt Session (Option Text) := do
  let directory ← Attempt.require evalDirectory
  let items ← Attempt.ofExcept expressions.items
  let session ← Attempt.look id
  let output ← onHost
    (session.cue.eval session.source (.array items) outType (some directory))
  let place ← onHost (session.scratch.allocate "eval")
  let format ← Attempt.ofExcept (OutType.ofValue outType)
  let file := evalFileIn place format
  onHost (Host.writeText file output)
  updateState fun state =>
    (state.withEval output outType (some file)).withStatus ("Evaluated as " ++ outType.shown)
  pure (some file)

/-- Evaluates the file, or the items of a value as expressions in it, and gives the file of the
result. -/
def evaluate (expressions outType : Settings.Value) : Attempt Session (Option Text) := do
  let chosen ← Attempt.look fun session => chosenOutType outType session.state
  perform .evaluate none (evaluateBody expressions chosen)

/-- Reads the file again. -/
def reloadSource : Attempt Session Unit := do
  let text ← Attempt.require fun session => session.host.readText session.source
  updateState fun state => { state with sourceCode := text }

/-- Formats the file in place and reads it again. -/
def formatBody : Attempt Session Unit := do
  let session ← Attempt.look id
  let _ ← onHost (session.cue.fmt session.source (some (Spelling.directory session.source)))
  reloadSource
  updateState (State.withStatus "Formatted")

def format : Attempt Session Unit := perform .format () formatBody

/-- Reads the file again and, if the settings say so, lints it. -/
def savedBody : Attempt Session Unit := do
  reloadSource
  if ← Attempt.look fun session => session.settings.lintOnSave then lint else notify

/-- The file has been saved: it is read again and, if the settings say so, linted. Failures of the
file system and a missing `cue` program go into the status. -/
def saved (path : Text) : Attempt Session Unit := do
  onHost (Host.log .debug ("save detected for " ++ path))
  savedBody.rescue fun failure => do
    if failure.isCueMissing then
      updateState (State.withStatus failure.message)
      notify
    else if failure.isSystem then
      updateState (State.withStatus ("Failed to read file, error: " ++ failure.message))
      notify
    else Attempt.fail failure

/-- Reads the file, lints it if the settings say so, and starts watching it. -/
def start : Attempt Session Unit := do
  savedBody
  let source ← Attempt.look Session.source
  watching.start source

/-- Stops watching, withdraws the findings of the file and removes the scratch directory. -/
def stop : Attempt Session Unit := do
  watching.stop
  let published ← Attempt.require fun session =>
    session.published.withdraw session.source session.host
  Attempt.change fun session => { session with published := published }
  let scratch ← Attempt.look Session.scratch
  onHost scratch.cleanup

/-- An event on files has happened. -/
def receive (event : Watch.FileEvent) : Attempt Session Unit := watching.deliver saved event

/-- Changes the flags for lints to the items of a value and withdraws all findings. -/
def storeFlags (value : Settings.Value) : Attempt Session Unit := do
  let flags ← Attempt.ofExcept value.items
  Attempt.change fun session => { session with lintFlags := .array flags }
  updateState fun state => { state with lintFlags := flags }
  changeSetting "lint_flags" (.array flags)
  withdrawAll

/-- Changes the flags for lints to the items of a value, withdraws all findings, and lints
again. -/
def setFlags (value : Settings.Value) : Attempt Session Unit := do
  storeFlags value
  lint

def lintOnSaveMessage (enabled : Bool) : Text :=
  if enabled then "Lint on save: on" else "Lint on save: off"

/-- Changes whether the file is linted when it is saved, and withdraws all findings. -/
def setLintOnSave (enabled : Settings.Value) : Attempt Session Unit := do
  changeSetting "lint_on_save" enabled
  withdrawAll
  updateState fun state =>
    { state with diagnostics := [], statusMessage := lintOnSaveMessage enabled.isSet }
  notify

def setOutType (outType : Settings.Value) : Attempt Session Unit := do
  updateState fun state => { state with evalOutType := outType }
  changeSetting "eval_out_type" outType

end CueWatch.Session
