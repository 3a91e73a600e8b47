import CueWatch.Host.Files

/-!
Contract: starting a process and waiting for its end.

Owns:
- `spawn`, which notes the command, lets the process write its files and gives its result or the
  error that kept it from running.

Does not own: which commands are started (`Cue`).
-/

namespace CueWatch.Host

/-- Writes a file and makes the directories above it first. -/
def writeWithParents (path : Text) (content : Content) : Attempt Host Unit := do
  let above := Spelling.directory path
  if above.isEmpty then pure () else makeTree true above
  writeContent path content

def writeAll : List (Text × Content) → Attempt Host Unit
  | [] => pure ()
  | (path, content) :: rest => do
      writeWithParents path content
      writeAll rest

/-- Takes the outcome of the next process. -/
def takeOutcome : Attempt Host ProcessOutcome := fun host =>
  match host.outcomes with
  | [] => (.ok .silent, host)
  | outcome :: rest => (.ok outcome, { host with outcomes := rest })

/-- Starts a process and waits for its end. -/
def spawn (argv : List Text) (directory : Option Text) : Attempt Host ProcessResult := do
  Attempt.change fun host => { host with spawned := host.spawned ++ [⟨argv, directory⟩] }
  let outcome ← takeOutcome
  writeAll outcome.writes
  match outcome.refusal with
  | some error => Attempt.fail (.raised error)
  | none => pure outcome.result

end CueWatch.Host
