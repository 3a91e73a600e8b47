import CueWatch.Attempt
import CueWatch.FileTree.Resolve
import CueWatch.Journal.Record

/-!
Contract: everything outside the program that its steps read and change.

Owns:
- `Host`: the file tree, the working directory, the environment, the user's account, the programs
  that can be found, the outcomes of the processes to come, the commands started so far, the number
  of temporary names drawn, and the journal;
- reading the environment and writing to the journal.

Does not own: operations on files (`Host.Files`) and on processes (`Host.Process`).
-/

namespace CueWatch

/-- A command line and the directory it runs in; without one it runs in the working directory. -/
structure Command where
  argv : List Text
  directory : Option Text
deriving DecidableEq, Repr

structure ProcessResult where
  stdout : Text
  stderr : Text
  code : Int
deriving DecidableEq, Repr

/-- What happens when a process is started: the files it writes, and then either the error that
keeps it from running or its result. -/
structure ProcessOutcome where
  writes : List (Text × Content)
  refusal : Option Raised
  result : ProcessResult
deriving DecidableEq, Repr

/-- The process that writes nothing and ends well. -/
def ProcessOutcome.silent : ProcessOutcome := ⟨[], none, ⟨[], [], 0⟩⟩

structure Host where
  tree : FileTree
  /-- The working directory, which may have been removed. -/
  workingDirectory : FileTree.Spot
  environment : Keyed Text Text
  /-- The home directory of the user's account; a user without an account has none. -/
  accountHome : Option Text
  /-- Where the programs on the search path are. -/
  programs : Keyed Text Text
  /-- The directory for temporary files. -/
  temporary : Text
  /-- The outcomes of the processes to come; when they are used up, processes are silent. -/
  outcomes : List ProcessOutcome
  spawned : List Command
  /-- How many temporary names have been drawn. -/
  drawn : Nat
  journal : List Journal.Record
deriving DecidableEq, Repr

namespace Host

def environmentValue? (name : Text) (host : Host) : Option Text := Keyed.find? name host.environment

def program? (name : Text) (host : Host) : Option Text := Keyed.find? name host.programs

/-- Leaves a record in the journal. -/
def log (level : Journal.Level) (text : Text) : Attempt Host Unit :=
  Attempt.change fun host => { host with journal := host.journal ++ [⟨level, text⟩] }

/-- The path of the working directory; one that has been removed has none. -/
def workingPath (host : Host) : Except Failure Path :=
  if host.workingDirectory.lost = 0 then .ok host.workingDirectory.path
  else .error .lostWorkingDirectory

def workingText (host : Host) : Except Failure Text := host.workingPath.map Path.text

/-- A written path seen from the working directory, with `.` and `..` resolved by the letter. Only
a relative path needs the working directory. -/
def absolute (path : Text) (host : Host) : Except Failure Text :=
  if Spelling.isAbsolute path then .ok (Spelling.normal path)
  else host.workingText.map fun directory => Spelling.absolute directory path

end Host

end CueWatch
