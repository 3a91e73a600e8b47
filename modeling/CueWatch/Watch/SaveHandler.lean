import CueWatch.Host.Files

/-!
Contract: which events on files count as a save of one file.

Owns:
- `FileEvent`, something that happened to a file at a time;
- `SaveHandler`, the file it waits for and when it was last triggered, and `triggers`, which
  compares paths without links and drops events that follow too soon.

Does not own: who is told of a save (`Watch.Watcher`).
-/

namespace CueWatch.Watch

/-- What a clock shows, in seconds. Clocks may be set back. -/
abbrev Moment : Type := Rat

inductive EventKind where
  | modified
  | moved
deriving DecidableEq, Repr

/-- An event: the path it happened to, the path that a move led to, and when. -/
structure FileEvent where
  kind : EventKind
  source : Text
  destination : Text
  isDirectory : Bool
  moment : Moment
deriving DecidableEq, Repr

/-- The path at which a file has changed: for a move, the one it led to. -/
def FileEvent.path (event : FileEvent) : Text :=
  match event.kind with
  | .modified => event.source
  | .moved => event.destination

/-- Waits for saves of a file. -/
structure SaveHandler where
  /-- The file, without links. -/
  target : Text
  /-- When the handler was last triggered. -/
  last : Moment
deriving DecidableEq, Repr

namespace SaveHandler

/-- Half a second: events that follow a save no later than this are dropped. -/
def quietPeriod : Moment := 1 / 2

/-- A handler for a file. -/
def create (file : Text) (host : Host) : Except Failure SaveHandler :=
  (host.settled file).map fun path => ⟨path.text, 0⟩

/-- Whether an event is about the file of the handler. -/
def concerns (handler : SaveHandler) (event : FileEvent) (host : Host) : Except Failure Bool :=
  if event.isDirectory then .ok false
  else (host.settled event.path).map fun path => path.text = handler.target

/-- Whether enough time has passed since the last save. -/
def isDue (handler : SaveHandler) (moment : Moment) : Bool :=
  quietPeriod < moment - handler.last

/-- Whether an event counts as a save. -/
def triggers (handler : SaveHandler) (event : FileEvent) (host : Host) : Except Failure Bool :=
  (handler.concerns event host).map fun concerned => concerned && handler.isDue event.moment

/-- The handler after a save has been dealt with. -/
def triggered (handler : SaveHandler) (moment : Moment) : SaveHandler :=
  { handler with last := moment }

end SaveHandler

end CueWatch.Watch
