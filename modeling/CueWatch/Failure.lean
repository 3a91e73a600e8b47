import CueWatch.Text.Quoted
import CueWatch.Text.Utf8

/-!
Contract: why a step fails, and the words in which it is reported.

Owns:
- `SystemError`, the errors of the file system, with their numbers and texts;
- `Raised`, an error that comes from outside: a process that cannot be started, a directory
  listing that is refused, a screen that cannot be opened;
- `Failure`, every cause for which a step of the program fails;
- `Failure.message`, the wording, and the classes by which callers tell failures apart.

Does not own: which operation raises which failure.
-/

namespace CueWatch

inductive SystemError where
  | noEntry
  | alreadyExists
  | notDirectory
  | isDirectory
  | invalidArgument
  | nameTooLong
  | notEmpty
  | tooManyLinks
deriving DecidableEq, Repr

namespace SystemError

def number : SystemError → Nat
  | .noEntry => 2
  | .alreadyExists => 17
  | .notDirectory => 20
  | .isDirectory => 21
  | .invalidArgument => 22
  | .nameTooLong => 36
  | .notEmpty => 39
  | .tooManyLinks => 40

def description : SystemError → Text
  | .noEntry => "No such file or directory"
  | .alreadyExists => "File exists"
  | .notDirectory => "Not a directory"
  | .isDirectory => "Is a directory"
  | .invalidArgument => "Invalid argument"
  | .nameTooLong => "File name too long"
  | .notEmpty => "Directory not empty"
  | .tooManyLinks => "Too many levels of symbolic links"

def headline (error : SystemError) : Text :=
  "[Errno " ++ Text.decimal error.number ++ "] " ++ error.description

end SystemError

/-- The class of an error from outside, as far as the program tells such errors apart. -/
inductive Raised.Family where
  | missingFile
  | system
  | ordinary
  | interrupt
deriving DecidableEq, Repr

/-- An error from outside: what it is called, its class and its text. -/
structure Raised where
  label : Text
  family : Raised.Family
  text : Text
deriving DecidableEq, Repr

inductive Failure where
  /-- The file system refuses an operation on a path. -/
  | system (error : SystemError) (path : Text)
  /-- A path holds the null character, which no path can hold. -/
  | nullInPath
  /-- The working directory is gone. -/
  | lostWorkingDirectory
  /-- The file that is to be watched does not exist. -/
  | unwatchable (path : Text)
  /-- The watcher has been started before. -/
  | startedBefore
  /-- A path leads round in a circle of links. -/
  | linkLoop (path : Text)
  /-- Links are nested too deeply to be followed. -/
  | linksTooDeep
  | homeless
  /-- The `cue` program is missing or cannot be started. -/
  | cueMissing (detail : Option Text)
  /-- A `cue` command ended with a code other than zero. -/
  | commandFailed (arguments : List Text) (stderr : Text) (code : Int)
  /-- No directory between the start and the boundary holds a module marker. -/
  | rootNotFound (boundary start : Text)
  /-- A directory on the way up cannot be listed. -/
  | unreadableDirectory (path : Text) (cause : Failure)
  /-- An evaluation is asked for in a format that `cue` does not write. -/
  | unsupportedOutType (given : Text)
  /-- A value, given in its quoted form, names no output type. -/
  | unknownOutType (given : Text)
  /-- A numeral has more digits than are read. -/
  | tooManyDigits (count : Nat)
  /-- A number has more digits than are written. -/
  | unwritableNumber
  /-- A file of settings holds arrays or objects that are nested too deeply; named is the kind of
  the one that is refused. -/
  | nestedTooDeeply (kind : Text)
  /-- A numeral is asked for where nothing is written. -/
  | emptyNumeral
  /-- A file is no UTF-8 text. -/
  | undecodable (fault : Text.Utf8.Fault)
  /-- A string cannot be encoded, because halves of pairs stand alone in it; told are the first of
  them, given as its escape, and the places of the first and the last one. -/
  | unencodable (half : Text) (first last : Nat)
  /-- The log level is a text that names no level. -/
  | unknownLevel (given : Text)
  /-- A value of the wrong type is used. -/
  | wrongType (message : Text)
  /-- A value has no such attribute. -/
  | missingAttribute (message : Text)
  /-- Markup cannot be read, or closes what is not open. -/
  | badMarkup (message : Text)
  | raised (error : Raised)
deriving DecidableEq, Repr

namespace Failure

/-- What to do when `cue` is missing. -/
def installHint : Text :=
  "CUE is not installed. Please make sure 'cue' is in your PATH. Check " ++
    "https://cuelang.org/docs/install/ to install CUE."

def supportedOutTypes : Text := "(yaml, json, text, cue)"

/-- What is said when something is nested too deeply. -/
def depthExceeded : Text := "maximum recursion depth exceeded"

/-- The longest numeral that is read or written, in digits. -/
def digitLimit : Nat := 4300

def message : Failure → Text
  | .system error path => error.headline ++ ": " ++ Text.quoted path
  | .nullInPath => "embedded null byte"
  | .lostWorkingDirectory => SystemError.noEntry.headline
  | .unwatchable path => "Cannot watch non-existent file: " ++ path
  | .startedBefore => "threads can only be started once"
  | .linkLoop path => "Symlink loop from " ++ Text.quoted path
  | .linksTooDeep => depthExceeded
  | .homeless => "Could not determine home directory."
  | .cueMissing none => installHint
  | .cueMissing (some detail) => installHint ++ " (" ++ detail ++ ")"
  | .commandFailed arguments stderr _ =>
      "run command \"cue " ++ Text.join " " arguments ++ "\" failed, stderr: " ++ stderr
  | .rootNotFound boundary _ => "No cue.mod in entire root: " ++ boundary
  | .unreadableDirectory path cause =>
      "Cannot read directory " ++ path ++ ": " ++ cause.message
  | .unsupportedOutType given => "Invalid outType: " ++ given ++ ", support " ++ supportedOutTypes
  | .unknownOutType given => given ++ " is not a valid OutType"
  | .tooManyDigits count =>
      "Exceeds the limit (" ++ Text.decimal digitLimit ++
        " digits) for integer string conversion: value has " ++ Text.decimal count ++
        " digits; use sys.set_int_max_str_digits() to increase the limit"
  | .unwritableNumber =>
      "Exceeds the limit (" ++ Text.decimal digitLimit ++
        " digits) for integer string conversion; use sys.set_int_max_str_digits() to increase " ++
        "the limit"
  | .nestedTooDeeply kind =>
      depthExceeded ++ " while decoding a JSON " ++ kind ++ " from a unicode string"
  | .emptyNumeral => "invalid literal for int() with base 10: ''"
  | .undecodable fault => fault.message
  | .unencodable half first last =>
      (if first = last then
        "'utf-8' codec can't encode character '" ++ half ++ "' in position " ++ Text.decimal first
      else
        "'utf-8' codec can't encode characters in position " ++ Text.decimal first ++ "-" ++
          Text.decimal last) ++
        ": surrogates not allowed"
  | .unknownLevel given => "Unknown level: " ++ Text.quoted given
  | .wrongType text => text
  | .missingAttribute text => text
  | .badMarkup text => text
  | .raised error => error.text

/-- Whether the file system or the operating system reports the failure. -/
def isSystem : Failure → Bool
  | .system _ _ => true
  | .lostWorkingDirectory => true
  | .unwatchable _ => true
  | .raised error => error.family == .missingFile || error.family == .system
  | _ => false

/-- Whether the failure says that a file does not exist. -/
def isMissingFile : Failure → Bool
  | .system .noEntry _ => true
  | .lostWorkingDirectory => true
  | .unwatchable _ => true
  | .raised error => error.family == .missingFile
  | _ => false

def isCueMissing : Failure → Bool
  | .cueMissing _ => true
  | _ => false

/-- Whether the failure is an interruption by the user, which no step handles as an error. -/
def isInterrupt : Failure → Bool
  | .raised error => error.family == .interrupt
  | _ => false

end Failure

end CueWatch
