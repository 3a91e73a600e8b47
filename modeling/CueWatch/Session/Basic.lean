import CueWatch.Cue
import CueWatch.Diagnostic.Collection
import CueWatch.ModuleRoot
import CueWatch.Scratch
import CueWatch.Session.State
import CueWatch.Watch.Watcher

/-!
Contract: everything that belongs to work on one source file.

Owns:
- `Session` and its creation;
- the small steps that commands are made of: looking, changing the state, telling the listener,
  working on the host.

Does not own: the commands (`Session.Engine`).
-/

namespace CueWatch

/-- Work on one source file, with its surroundings. -/
structure Session where
  host : Host
  settings : Settings.Store
  /-- The file, as an absolute path. -/
  source : Text
  /-- The folder that the user has opened. -/
  workspaceFolder : Option Text
  cue : Cue
  /-- The flags for lints. -/
  lintFlags : Settings.Value
  state : Session.State
  published : Collection
  scratch : Scratch
  watcher : Watch.Watcher
  /-- Whether somebody is told of changes. -/
  hasListener : Bool
  /-- How often the listener has been told. -/
  notices : Nat
deriving DecidableEq

namespace Session

def onHost {α : Type} (step : Attempt Host α) : Attempt Session α :=
  Attempt.within Session.host (fun host session => { session with host := host }) step

def updateState (change : State → State) : Attempt Session Unit :=
  Attempt.change fun session => { session with state := change session.state }

/-- Tells the listener that something has changed. -/
def notify : Attempt Session Unit :=
  Attempt.change fun session =>
    { session with notices := if session.hasListener then session.notices + 1 else session.notices }

/-- Changes a setting and writes the settings to their file. The setting is changed even if the
file cannot be written. -/
def changeSetting (key : Text) (value : Settings.Value) : Attempt Session Unit := do
  Attempt.change fun session => { session with settings := session.settings.put key value }
  let settings ← Attempt.look Session.settings
  onHost settings.save

def withdrawAll : Attempt Session Unit :=
  Attempt.change fun session => { session with published := .empty }

/-- How a session holds its watcher. -/
def watching : Watch.Setting Session where
  host := Session.host
  setHost host session := { session with host := host }
  watcher := Session.watcher
  setWatcher watcher session := { session with watcher := watcher }

/-- Begins work on a file. The scratch directory is made before the flags are looked at. -/
def create (file : Text) (settings : Settings.Store) (workspaceFolder : Option Text) :
    Attempt Host Session := do
  let source ← Attempt.require (Host.absolute file)
  let cue ← Cue.find settings.program
  let scratch ← Scratch.create Scratch.standardStart
  let flags ← Attempt.ofExcept settings.lintFlags
  let host ← Attempt.look id
  pure
    { host := host
      settings := settings
      source := source
      workspaceFolder := workspaceFolder
      cue := cue
      lintFlags := .array flags
      state := { State.initial with lintFlags := flags, evalOutType := settings.evalOutType }
      published := .empty
      scratch := scratch
      watcher := .initial
      hasListener := false
      notices := 0 }

end Session

end CueWatch
