import CueWatch.Host.Files
import CueWatch.Host.Home
import CueWatch.Settings.Json.Writer

/-!
Contract: the user's settings, kept in a file over a set of defaults.

Owns:
- `Store`: the directory of the settings and their current values, in order;
- loading, which puts the fields of the file over the defaults and ignores a file that cannot be
  used, and saving after each change.

Does not own: the meaning of the single settings.
-/

namespace CueWatch.Settings

/-- The settings in force and the directory their file is in. -/
structure Store where
  directory : Pathname
  values : Keyed Key Value
deriving DecidableEq, Repr

/-- The settings without a file. -/
def defaults : Keyed Key Value :=
  [ ("cue_binary", .text "cue"),
    ("module_root", .text (Text.ofString "$\x7bworkspaceFolder\x7d")),
    ("lint_flags", .array []),
    ("lint_on_save", .bool true),
    ("eval_out_type", .text "cue"),
    ("log_level", .text "INFO") ]

namespace Store

def fileIn (directory : Pathname) : Pathname := directory.child "config.json"

def file (store : Store) : Pathname := fileIn store.directory

def get? (key : Key) (store : Store) : Option Value := Keyed.find? key store.values

/-- What is noted when a file cannot be used. -/
def unusableNote : Text := "Error loading config %s: %s"

/-- What is noted when a file holds something else than an object. -/
def notObjectNote : Text := "Ignoring non-object config in %s"

/-- The settings with what a file holds put over the defaults, and what is to be noted. -/
def overlay (text : Text) : Except Failure (Keyed Key Value × Option Text) :=
  match Json.read text with
  | .ok (.object fields) => .ok (Keyed.merge defaults fields, none)
  | .ok _ => .ok (defaults, some notObjectNote)
  | .error .malformed => .ok (defaults, some unusableNote)
  | .error (.tooManyDigits count) => .error (.tooManyDigits count)
  | .error (.tooDeep kind) => .error (.nestedTooDeeply kind)

/-- Notes a warning, if there is one. -/
def warn : Option Text → Attempt Host Unit
  | some note => Host.log .warning note
  | none => pure ()

/-- Reads the settings in a directory, which is made if it is missing. -/
def read (directory : Pathname) : Attempt Host (Keyed Key Value) := do
  Host.makeDirectories directory
  let path := (fileIn directory).text
  if ← Attempt.require (Host.isPresent path) then
    match ← Attempt.look (Host.readText path) with
    | .ok text =>
        let (values, note) ← Attempt.ofExcept (overlay text)
        warn note
        pure values
    | .error failure =>
        if failure.isSystem then
          warn (some unusableNote)
          pure defaults
        else Attempt.fail failure
  else pure defaults

/-- The directory of the settings when none is given. -/
def standardDirectory (host : Host) : Except Failure Pathname :=
  host.home.map fun home => home.child ".cuebolt"

/-- The directory that a given text stands for; none and the empty one are the standard. -/
def directoryFor (given : Option Text) (host : Host) : Except Failure Pathname :=
  match given with
  | some (c :: rest) => .ok (Pathname.ofText (c :: rest))
  | _ => standardDirectory host

def load (given : Option Text) : Attempt Host Store := do
  let directory ← Attempt.require (directoryFor given)
  let values ← read directory
  pure ⟨directory, values⟩

/-- Writes the settings to their file. -/
def save (store : Store) : Attempt Host Unit := do
  Host.makeDirectories store.directory
  Host.writeText store.file.text (Json.write (.object store.values))

/-- Changes a setting in memory. -/
def put (key : Key) (value : Value) (store : Store) : Store :=
  { store with values := Keyed.put key value store.values }

/-- Adds an item to a setting that holds an array. -/
def append (key : Key) (item : Value) (store : Store) : Except Failure Store :=
  match store.get? key with
  | some (.array items) => .ok (store.put key (.array (items ++ [item])))
  | found =>
      .error (.missingAttribute
        (Text.quoted (found.getD .null).kind ++ " object has no attribute 'append'"))

/-- The template for the outermost module root; a value that is not set counts as the default. -/
def moduleRoot (store : Store) : Value :=
  match store.get? "module_root" with
  | some value =>
      if value.isSet then value else .text (Text.ofString "$\x7bworkspaceFolder\x7d")
  | none => .text (Text.ofString "$\x7bworkspaceFolder\x7d")

/-- Whether the file is linted when it is saved. -/
def lintOnSave (store : Store) : Bool :=
  match store.get? "lint_on_save" with
  | some (.text t) => !t.isEmpty && t ≠ ("off" : Text)
  | some value => value.isSet
  | none => true

/-- The flags for every lint: the items of the value, and none if it is not set. -/
def lintFlags (store : Store) : Except Failure (List Value) :=
  match store.get? "lint_flags" with
  | some value => if value.isSet then value.items else .ok []
  | none => .ok []

def evalOutType (store : Store) : Value := (store.get? "eval_out_type").getD (.text "cue")

/-- The name or path of the `cue` program. -/
def program (store : Store) : Value := (store.get? "cue_binary").getD (.text "cue")

/-- The level from which on records go to the journal. -/
def logLevel (store : Store) : Value := (store.get? "log_level").getD (.text "INFO")

end Store

end CueWatch.Settings
