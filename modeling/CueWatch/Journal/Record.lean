import CueWatch.Text.Basic

/-!
Contract: the records that the parts of the program leave in its journal.

Owns:
- `Level` and `Record`.

Does not own: where records go and which are dropped (`Journal.Setup`).
-/

namespace CueWatch.Journal

/-- How much a record matters. -/
inductive Level where
  | debug
  | info
  | warning
  | error
deriving DecidableEq, Repr

def Level.name : Level → Text
  | .debug => "DEBUG"
  | .info => "INFO"
  | .warning => "WARNING"
  | .error => "ERROR"

structure Record where
  level : Level
  text : Text
deriving DecidableEq, Repr

end CueWatch.Journal
