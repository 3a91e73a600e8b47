import CueWatch.Host.Files

/-!
Contract: temporary directories for the files of evaluations.

Owns:
- `Scratch`, a directory of its own under the host's directory for temporary files;
- allocating directories in it, disposing of one, and removing everything.

Does not own: what is written there.
-/

namespace CueWatch

structure Scratch where
  root : Text
deriving DecidableEq, Repr

namespace Scratch

/-- How the names of scratch directories begin. -/
def standardStart : Text := "cuebolt-"

/-- Makes a scratch directory whose name begins with `start`. -/
def create (start : Text) : Attempt Host Scratch := do
  let directory ← Attempt.look Host.temporary
  let root ← Host.makeTemporary start directory
  Host.log .debug ("created temp workspace " ++ root)
  pure ⟨root⟩

/-- Makes a fresh directory in the scratch directory, which is made again if it is gone. -/
def allocate (scratch : Scratch) (start : Text) : Attempt Host Text := do
  if ← Attempt.look (Host.isDirectory? scratch.root) then pure ()
  else Host.makeTree true scratch.root
  Host.makeTemporary start scratch.root

/-- Removes an allocated directory with everything in it. -/
def dispose (path : Text) (host : Host) : Host := host.removeTree path

/-- Removes the scratch directory with everything in it. -/
def cleanup (scratch : Scratch) : Attempt Host Unit := do
  if ← Attempt.require (Host.isPresent scratch.root) then
    Attempt.change (Host.removeTree scratch.root)
    Host.log .debug ("removed temp workspace " ++ scratch.root)

end Scratch

end CueWatch
