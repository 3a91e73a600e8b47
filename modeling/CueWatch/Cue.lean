import CueWatch.Host.Process
import CueWatch.OutType

/-!
Contract: the commands of the `cue` program.

Owns:
- `Cue`, the program as asked for and where it was found;
- `vet`, `eval` and `fmt`, with their command lines and their failures.

Does not own: reading what the commands print.
-/

namespace CueWatch

/-- The `cue` program: the name it was asked for by, and where it was found. -/
structure Cue where
  name : Settings.Value
  path : Option Text
deriving DecidableEq, Repr

namespace Cue

/-- Where a program of a name is. No program has a torn name, and what is no string cannot be looked
for at all. -/
def locate (name : Settings.Value) (host : Host) : Except Failure (Option Text) :=
  match name with
  | .text t => .ok (host.program? t)
  | .torn _ => .ok none
  | other => .error (.wrongType ("expected str, bytes or os.PathLike object, not " ++ other.kind))

/-- The path of the program; an empty one counts as missing. -/
def usable (cue : Cue) : Option Text :=
  match cue.path with
  | some (c :: rest) => some (c :: rest)
  | _ => none

/-- Looks for a program by its name. A missing one is noted, and refused only when it is needed. -/
def find (name : Settings.Value) : Attempt Host Cue := do
  let path ← Attempt.require (locate name)
  let cue : Cue := ⟨name, path⟩
  if cue.usable.isNone then
    Host.log .warning ("cue binary '" ++ name.shown ++ "' not found.")
  pure cue

/-- The strings of arguments; another value is no argument. -/
def argumentStrings (position : Nat) : List Settings.Value → Except Failure (List Settings.Key)
  | [] => .ok []
  | .text t :: rest => (argumentStrings (position + 1) rest).map (.text t :: ·)
  | .torn t :: rest => (argumentStrings (position + 1) rest).map (.torn t :: ·)
  | other :: _ =>
      .error (.wrongType
        ("sequence item " ++ Text.decimal position ++ ": expected str instance, " ++ other.kind ++
          " found"))

/-- The texts that a process is given; a torn string cannot be given to one. -/
def argumentTexts : List Settings.Key → Except Failure (List Text)
  | [] => .ok []
  | .text t :: rest => (argumentTexts rest).map (t :: ·)
  | .torn t :: _ => .error t.unencodable

/-- Turns the failure to find the program's file into the complaint that `cue` is missing. -/
def missing (failure : Failure) : Failure :=
  if failure.isMissingFile then .cueMissing (some failure.message) else failure

/-- Runs `cue` in a directory with the items of a value as arguments. A result with another code
than zero is no failure. -/
def run (cue : Cue) (arguments : Settings.Value) (directory : Option Text) :
    Attempt Host ProcessResult := do
  match cue.usable with
  | none => Attempt.fail (.cueMissing none)
  | some program =>
      let items ← Attempt.ofExcept arguments.spread
      let strings ← Attempt.ofExcept (argumentStrings 0 items)
      Host.log .info
        ("cue " ++ Text.join " " (strings.map Settings.Key.shown) ++ " --- cwd=" ++
          directory.getD "None")
      let arguments ← Attempt.ofExcept (argumentTexts strings)
      (Host.spawn (program :: arguments) directory).rescue fun failure =>
        Attempt.fail (missing failure)

def words (texts : List Text) : List Settings.Value := texts.map .text

/-- The flag that asks for concrete values. -/
def concreteFlag : Text := "-c"

/-- Lints a file with the items of a value as flags; concrete values are required. -/
def vet (cue : Cue) (file : Text) (flags : Settings.Value) (directory : Option Text) :
    Attempt Host ProcessResult := do
  let flags ← Attempt.ofExcept flags.spread
  cue.run (.array (words ["vet", file] ++ flags ++ words [concreteFlag])) directory

/-- Runs `cue` and fails if it ends with another code than zero. -/
def runChecked (cue : Cue) (arguments : List Settings.Value) (directory : Option Text) :
    Attempt Host ProcessResult := do
  let result ← cue.run (.array arguments) directory
  if result.code = 0 then pure result
  else Attempt.fail (.commandFailed (arguments.map Settings.Value.shown) result.stderr result.code)

def expressionFlag : Text := "-e"

/-- The arguments that choose expressions. -/
def expressionArguments (expressions : List Settings.Value) : List Settings.Value :=
  expressions.flatMap fun expression => [.text expressionFlag, expression]

/-- The arguments that choose a format; the format `cue` is chosen by saying nothing. -/
def formatArguments (format : OutType) : List Settings.Value :=
  if format = .cue then [] else words ["--out", format.name]

def evalArguments (file : Text) (expressions : List Settings.Value) (format : OutType) :
    List Settings.Value :=
  words ["eval", file] ++ expressionArguments expressions ++ formatArguments format ++
    words [concreteFlag]

/-- Evaluates a file, or the items of a value as expressions in it, and gives what is printed. -/
def eval (cue : Cue) (file : Text) (expressions outType : Settings.Value)
    (directory : Option Text) : Attempt Host Text := do
  match OutType.ofValue? outType with
  | none => Attempt.fail (.unsupportedOutType outType.shown)
  | some format =>
      let expressions ← Attempt.ofExcept expressions.items
      let result ← cue.runChecked (evalArguments file expressions format) directory
      pure result.stdout

/-- Formats a file in place. -/
def fmt (cue : Cue) (file : Text) (directory : Option Text) : Attempt Host ProcessResult :=
  cue.runChecked (words ["fmt", file]) directory

end Cue

end CueWatch
