import CueWatch.Panel.EvalPane
import CueWatch.Panel.Findings
import CueWatch.Panel.StatusBar
import CueWatch.Session.Engine

/-!
Contract: the panel that shows a session and takes the user's keys.

Owns:
- `App`, the session with what the panes, the bar and the prompt show;
- `Act`, what the user does, with its key bindings, and `App.handle`;
- `App.refresh`, which shows the state of the session after it has told of a change.

The findings of a session are those of a report. All of their numbers can be written, so that they
are shown by `Findings.render` and never refused by `Findings.shown`.

Does not own: painting, and how the bar reads marked text, which is given with the panel.
-/

namespace CueWatch.Panel

/-- What a prompt asks for. -/
inductive Purpose where
  | flags
  | expression
deriving DecidableEq, Repr

namespace Purpose

def name : Purpose → Text
  | .flags => "flags"
  | .expression => "expression"

def title : Purpose → Text
  | .flags => "cue vet flags"
  | .expression => "Expressions to evaluate"

def placeholder : Purpose → Text
  | .flags => "-t env=prod ..."
  | .expression => "space separated, e.g. \"a[0] b[0]\""

end Purpose

structure Prompt where
  purpose : Purpose
  value : Text
deriving DecidableEq, Repr

/-- The panel at work. -/
structure App where
  session : Session
  bar : StatusBar
  /-- How the bar reads its text, which is marked text: it fails on one that it cannot show. -/
  reading : Text → Except Failure Unit
  /-- What was last shown of the findings. -/
  findings : Option Styled
  /-- What was last shown of an evaluation; the pane is hidden before. -/
  output : Option Styled
  prompt : Option Prompt
  /-- How many of the session's notices have been dealt with. -/
  seen : Nat

namespace App

def onSession {α : Type} (step : Attempt Session α) : Attempt App α :=
  Attempt.within App.session (fun session app => { app with session := session }) step

/-- Changes the bar, whose text has to be one that it can show. -/
def changeBar (change : StatusBar.Change) : Attempt App Unit := do
  Attempt.change fun app => { app with bar := app.bar.apply change }
  Attempt.require fun app => app.reading app.bar.text

def showStatus (status : Text) : Attempt App Unit :=
  changeBar { StatusBar.Change.none with status := some status }

/-- The flags of a session as one text. -/
def flagsText (session : Session) : Except Failure Text := do
  let strings ← Cue.argumentStrings 0 (← session.lintFlags.items)
  .ok (Text.join " " (strings.map Settings.Key.shown))

/-- Runs a command of the session; the complaint that `cue` is missing goes to the bar. -/
def runCommand {α : Type} (command : Attempt Session α) : Attempt App Unit :=
  (do let _ ← onSession command; pure () : Attempt App Unit).rescue fun failure =>
    if failure.isCueMissing then showStatus failure.message else Attempt.fail failure

/-- Shows the findings and the evaluation of the session. -/
def refreshPanes (app : App) : App :=
  let state := app.session.state
  { app with
    findings := some (Findings.render state.diagnostics state.sourceLines)
    output :=
      if state.evalFile.isSome then
        some (EvalPane.render state.evalOutput state.evalOutType.shown)
      else app.output }

/-- Shows the state of the session. -/
def refresh : Attempt App Unit := do
  Attempt.change refreshPanes
  let state ← Attempt.look fun app => app.session.state
  changeBar
    { StatusBar.Change.none with
      root := some state.moduleRoot
      status := some (if state.statusMessage.isEmpty then "idle" else state.statusMessage)
      errors := some state.diagnostics.length }

/-- Shows the state of the session if it has told of a change since the last time. -/
def settle : Attempt App Unit := do
  let app ← Attempt.look id
  if app.seen < app.session.notices then
    refresh
    Attempt.change fun app => { app with seen := app.session.notices }
  else pure ()

/-- The panel of a session before it is mounted. -/
def ofSession (reading : Text → Except Failure Unit) (session : Session) : App :=
  { session := { session with hasListener := true }
    bar := .initial
    reading := reading
    findings := none
    output := none
    prompt := none
    seen := session.notices }

/-- Mounts the panel: the bar tells the file and the flags, and the session starts. -/
def mount : Attempt App Unit := do
  let session ← Attempt.look App.session
  let flags ← Attempt.ofExcept (flagsText session)
  changeBar
    { StatusBar.Change.none with
      file := some (Spelling.name session.source)
      flags := some flags }
  runCommand Session.start

def hidePrompt : Attempt App Unit := Attempt.change fun app => { app with prompt := none }

def showPrompt (purpose : Purpose) (value : Text) : Attempt App Unit :=
  Attempt.change fun app => { app with prompt := some ⟨purpose, value⟩ }

def cycleOutType : Attempt App Unit := do
  let current ← Attempt.look fun app => app.session.state.evalOutType
  let format ← Attempt.ofExcept (OutType.ofValue current)
  onSession (Session.setOutType (.text format.next.name))
  showStatus ("eval output: " ++ format.next.name)

def toggleLintOnSave : Attempt App Unit := do
  let enabled ← Attempt.look fun app => app.session.settings.lintOnSave
  onSession (Session.setLintOnSave (.bool !enabled))

def submitted (purpose : Purpose) (value : Text) : Attempt App Unit :=
  match purpose with
  | .flags => do
      changeBar { StatusBar.Change.none with flags := some value }
      runCommand (Session.setFlags (.array (Cue.words (Text.words value))))
  | .expression =>
      if (Text.words value).isEmpty then showStatus "No expression entered"
      else runCommand (Session.evaluate (.array (Cue.words (Text.words value))) .null)

/-- What the user does. -/
inductive Act where
  | relint
  | eval
  | evalExpression
  | cycleOutType
  | format
  | editFlags
  | toggleLintOnSave
  | dismiss
  | submit (value : Text)
deriving DecidableEq, Repr

def keys : List (Text × Act) :=
  [ ("r", .relint), ("e", .eval), ("x", .evalExpression), ("t", .cycleOutType), ("f", .format),
    ("o", .editFlags), ("s", .toggleLintOnSave), ("escape", .dismiss) ]

def Act.ofKey? (key : Text) : Option Act := Keyed.find? key keys

/-- Does what the user asks for. -/
def handle : Act → Attempt App Unit
  | .relint => runCommand Session.lint
  | .eval => runCommand (Session.evaluate (.array []) .null)
  | .evalExpression => showPrompt .expression []
  | .cycleOutType => cycleOutType
  | .format => runCommand Session.format
  | .editFlags => do
      let session ← Attempt.look App.session
      showPrompt .flags (← Attempt.ofExcept (flagsText session))
  | .toggleLintOnSave => toggleLintOnSave
  | .dismiss => hidePrompt
  | .submit value => do
      let prompt ← Attempt.look App.prompt
      hidePrompt
      match prompt with
      | some prompt => submitted prompt.purpose value
      | none => pure ()

/-- An event on files has happened. -/
def receive (event : Watch.FileEvent) : Attempt App Unit := onSession (Session.receive event)

def close : Attempt App Unit := onSession Session.stop

end App

end CueWatch.Panel
