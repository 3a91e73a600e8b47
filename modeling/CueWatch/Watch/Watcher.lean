import CueWatch.Watch.SaveHandler

/-!
Contract: watching the directories of files and telling of saves.

Owns:
- `Watcher`, which runs at most once, with its handlers;
- starting, stopping, and handing an event to every live handler.

Does not own: what is done on a save; that is a step on a larger state, given by the caller.
-/

namespace CueWatch.Watch

/-- A watcher runs once: it has not started, is running, or has ended for good. -/
inductive Phase where
  | fresh
  | running
  | ended
deriving DecidableEq, Repr

/-- A handler and the directory that is watched for it. -/
structure Registration where
  handler : SaveHandler
  directory : Text
deriving DecidableEq, Repr

/-- A watcher of files. -/
structure Watcher where
  phase : Phase
  registrations : List Registration
deriving DecidableEq, Repr

namespace Watcher

/-- A watcher that has not started. -/
def initial : Watcher := ⟨.fresh, []⟩

/-- The registrations that events reach. -/
def live (watcher : Watcher) : List Registration :=
  if watcher.phase = .running then watcher.registrations else []

def directories (watcher : Watcher) : List Text := watcher.live.map Registration.directory

/-- What watching a file asks for: the file must exist. -/
def registration (file : Text) (host : Host) : Except Failure Registration :=
  match host.settled file with
  | .error failure => .error failure
  | .ok path =>
      match host.isPresent path.text with
      | .error failure => .error failure
      | .ok false => .error (.unwatchable file)
      | .ok true =>
          (SaveHandler.create path.text host).map fun handler => ⟨handler, path.parent.text⟩

def register (watcher : Watcher) (registration : Registration) : Watcher :=
  { watcher with registrations := watcher.registrations ++ [registration] }

/-- The watcher after a start, or the complaint that it was started before. -/
def launch (watcher : Watcher) : Except Failure Watcher :=
  match watcher.phase with
  | .fresh => .ok { watcher with phase := .running }
  | _ => .error .startedBefore

/-- The watcher after a stop. Only a running one ends. -/
def stop (watcher : Watcher) : Watcher :=
  if watcher.phase = .running then ⟨.ended, []⟩ else watcher

/-- The watcher in which one registration's handler has dealt with a save. -/
def markTriggered (position : Nat) (moment : Moment) (watcher : Watcher) : Watcher :=
  { watcher with
    registrations := watcher.registrations.modify position fun registration =>
      { registration with handler := registration.handler.triggered moment } }

end Watcher

/-- How a state holds a watcher and the host it looks at. -/
structure Setting (σ : Type) where
  host : σ → Host
  setHost : Host → σ → σ
  watcher : σ → Watcher
  setWatcher : Watcher → σ → σ

namespace Setting

variable {σ : Type} (setting : Setting σ)

/-- A step on the host. -/
def onHost {α : Type} (step : Attempt Host α) : Attempt σ α :=
  Attempt.within setting.host setting.setHost step

def update (change : Watcher → Watcher) : Attempt σ Unit :=
  Attempt.change fun state => setting.setWatcher (change (setting.watcher state)) state

/-- Starts watching the directory of a file. The file is registered even if the watcher then turns
out to have been started before. -/
def start (file : Text) : Attempt σ Unit := do
  let registration ← Attempt.require fun state => Watcher.registration file (setting.host state)
  setting.update fun watcher => watcher.register registration
  let launched ← Attempt.require fun state => (setting.watcher state).launch
  setting.update fun _ => launched
  setting.onHost (Host.log .info ("watching " ++ registration.handler.target))

def stop : Attempt σ Unit := setting.update Watcher.stop

/-- Hands an event to the live registration at a position: if it is a save, the callback is run
with the file's path, and the save is remembered once the callback has succeeded. -/
def notifyAt (callback : Text → Attempt σ Unit) (event : FileEvent) (position : Nat) :
    Attempt σ Unit := do
  match ← Attempt.look fun state => (setting.watcher state).live[position]? with
  | none => pure ()
  | some registration =>
      if ← Attempt.require (fun state =>
          registration.handler.triggers event (setting.host state)) then
        setting.onHost (Host.log .debug ("save detected: " ++ registration.handler.target))
        callback registration.handler.target
        setting.update (Watcher.markTriggered position event.moment)

/-- Hands an event to several positions in order, each with the callback that belongs to it. -/
def notifyEach (callback : Nat → Text → Attempt σ Unit) (event : FileEvent) :
    List Nat → Attempt σ Unit
  | [] => pure ()
  | position :: rest => do
      setting.notifyAt (callback position) event position
      notifyEach callback event rest

/-- Hands an event to every live registration, in the order of registration. -/
def deliverEach (callback : Nat → Text → Attempt σ Unit) (event : FileEvent) :
    Attempt σ Unit := do
  let count ← Attempt.look fun state => (setting.watcher state).live.length
  setting.notifyEach callback event (List.range count)

/-- Hands an event to every live registration; the callback is the same for all of them. -/
def deliver (callback : Text → Attempt σ Unit) (event : FileEvent) : Attempt σ Unit :=
  setting.deliverEach (fun _ => callback) event

end Setting

end CueWatch.Watch
