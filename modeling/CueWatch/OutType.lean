import CueWatch.Failure
import CueWatch.Path.Spelling
import CueWatch.Settings.Value

/-!
Contract: the formats that evaluations are written in, and the files that are accepted as source.

Owns:
- `OutType`, its names, the extension of its files and the order in which formats are cycled;
- `isSource`.

Does not own: running an evaluation (`Cue`).
-/

namespace CueWatch

inductive OutType where
  | yaml
  | json
  | text
  | cue
deriving DecidableEq, Repr

namespace OutType

def name : OutType → Text
  | .yaml => "yaml"
  | .json => "json"
  | .text => "text"
  | .cue => "cue"

def all : List OutType := [.yaml, .json, .text, .cue]

def ofName? (t : Text) : Option OutType := all.find? fun format => format.name = t

/-- The format that a value names. -/
def ofValue? : Settings.Value → Option OutType
  | .text t => ofName? t
  | _ => none

/-- The format that a value names, or the complaint that it names none. -/
def ofValue (value : Settings.Value) : Except Failure OutType :=
  match ofValue? value with
  | some format => .ok format
  | none => .error (.unknownOutType value.quoted)

/-- The extension of files in a format: its name, but for text. -/
def extension : OutType → Text
  | .text => "txt"
  | format => format.name

/-- The next format in the cycle. -/
def next : OutType → OutType
  | .yaml => .json
  | .json => .text
  | .text => .cue
  | .cue => .yaml

end OutType

/-- Whether a path is accepted as source. -/
def isSource (path : Text) : Bool := (Pathname.ofText path).suffix = (".cue" : Text)

end CueWatch
