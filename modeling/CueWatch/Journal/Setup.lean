import CueWatch.Console.Basic
import CueWatch.Host.Files
import CueWatch.Journal.Part
import CueWatch.Keyed
import CueWatch.Settings.Value

/-!
Contract: where the records of the journal go, and which of them.

Owns:
- `threshold`, the number of a named level;
- `Setup`, the level and the handlers in force, and `configure`, which makes them;
- `accepts`, which says whether a message of a part of the program is kept among the parts that are
  known, `kept`, which says it of messages in order, and `writeMessages`.

Does not own: the records themselves (`Journal.Record`), and times of day.
-/

namespace CueWatch.Journal

/-- Where records go. -/
inductive Handler where
  | console
  | file (path : Text)
  | discard
deriving DecidableEq, Repr

/-- The level from which on records are kept, and where they go; and the warning shown when the
file could not be opened. -/
structure Setup where
  level : Int
  handlers : List Handler
  warning : Text
deriving DecidableEq, Repr

/-- The level when no known level is named. -/
def standardLevel : Int := 20

/-- The level of the parts that would say too much. -/
def quietLevel : Int := 30

def levels : List (Text × Int) :=
  [ ("CRITICAL", 50), ("FATAL", 50), ("ERROR", 40), ("WARNING", 30), ("WARN", 30), ("INFO", 20),
    ("DEBUG", 10), ("NOTSET", 0) ]

/-- A character in capitals, as far as the names of levels need it. -/
def capital (c : Char) : Text :=
  if 'a' ≤ c && c ≤ 'z' then [Char.ofNat (c.toNat - 32)]
  else if c.toNat = 0x131 then ['I']
  else if c.toNat = 0x17F then ['S']
  else if c.toNat = 0xFB05 || c.toNat = 0xFB06 then ['S', 'T']
  else [c]

def capitals (t : Text) : Text := t.flatMap capital

/-- The text that stands under a name where a level is looked for. -/
def formatText : Text := "%(levelname)s:%(name)s:%(message)s"

/-- The level that a setting names. Two names stand for something that is no level. -/
def threshold (setting : Settings.Value) : Except Failure (Except Failure Int) :=
  match setting with
  | .text t =>
      let name := capitals t
      match Keyed.find? name levels with
      | some level => .ok (.ok level)
      | none =>
          if name = ("BASIC_FORMAT" : Text) then .ok (.error (.unknownLevel formatText))
          else if name = ("_STYLES" : Text) then
            .ok (.error (.wrongType "Level not an integer or a valid string"))
          else .ok (.ok standardLevel)
  | .torn _ => .ok (.ok standardLevel)
  | other =>
      .error (.missingAttribute (Text.quoted other.kind ++ " object has no attribute 'upper'"))

/-- Opens a log file, making it and the directories above it if they are missing. -/
def openFile (path : Text) : Attempt Host Text := do
  Host.makeDirectories (Pathname.ofText path).parent
  let place ← Attempt.require (Host.absolute path)
  match ← Attempt.look (Host.content place) with
  | .ok _ => pure place
  | .error failure =>
      if failure.isMissingFile then
        Host.writeText place []
        pure place
      else Attempt.fail failure

def warning (console : Console) (path : Text) (failure : Failure) : Except Failure Text :=
  (console.marked
    ("[yellow]Warning: Could not log to " ++ path ++ ": " ++ failure.message ++
      "[/yellow]")).map (· ++ ['\n'])

/-- The handler of a log file, or the warning when it cannot be opened. -/
def fileHandler (console : Console) : Option Text → Attempt Host (List Handler × Text)
  | none => pure ([], [])
  | some [] => pure ([], [])
  | some path => do
      match ← (openFile path).outcome with
      | .ok place => pure ([.file place], [])
      | .error failure =>
          if failure.isSystem then
            let warning ← Attempt.ofExcept (warning console path failure)
            pure ([], warning)
          else Attempt.fail failure

/-- Sets the journal up. The log file is opened even if the level then turns out to be none. -/
def configure (console : Console) (level : Settings.Value) (logFile : Option Text)
    (toConsole : Bool) : Attempt Host Setup := do
  let level ← Attempt.ofExcept (threshold level)
  let (files, warning) ← fileHandler console logFile
  let handlers := (if toConsole then [.console] else []) ++ files
  let level ← Attempt.ofExcept level
  pure ⟨level, if handlers.isEmpty then [.discard] else handlers, warning⟩

/-- A message of a part of the program, with the number of its level. -/
structure Message where
  level : Int
  part : Text
  text : Text
deriving DecidableEq, Repr

/-- The part that says too much. -/
def quietPart : Text := "watchdog"

/-- Whether a message is kept, among the parts that are known. -/
def Setup.accepts (setup : Setup) (known : List Text) (message : Message) : Bool :=
  0 < message.level &&
    (if Part.isInside known quietPart message.part then quietLevel else setup.level) ≤
      message.level

/-- The messages that are kept, where a part is known from its first message on, and what has once
been decided about a part and a level stays so. -/
def Setup.keptFrom (setup : Setup) (known : List Text) (decided : Keyed (Text × Int) Bool) :
    List Message → List Message
  | [] => []
  | message :: rest =>
      let known := if known.contains message.part then known else message.part :: known
      let topic := (message.part, message.level)
      let isKept := (Keyed.find? topic decided).getD (setup.accepts known message)
      let later := setup.keptFrom known (Keyed.put topic isKept decided) rest
      if isKept then message :: later else later

def Setup.kept (setup : Setup) (messages : List Message) : List Message :=
  setup.keptFrom [quietPart] [] messages

def levelName (level : Int) : Text :=
  match [(50, "CRITICAL"), (40, "ERROR"), (30, "WARNING"), (20, "INFO"), (10, "DEBUG")].find?
      fun pair : Int × String => pair.1 = level with
  | some pair => pair.2
  | none => "Level " ++ Text.signedDecimal level

/-- A message as a line of the log file, without the time. -/
def Message.line (message : Message) : Text :=
  (if message.part.isEmpty then ("root" : Text) else message.part) ++ " - " ++
    levelName message.level ++ " - " ++ message.text ++ ['\n']

/-- Adds text to the end of a file. -/
def appendText (path text : Text) : Attempt Host Unit := do
  let content ← Attempt.require (Host.content path)
  Host.writeContent path (content.extend text)

/-- Writes the messages that are kept to the log files. -/
def Setup.writeMessages (setup : Setup) (messages : List Message) : Attempt Host Unit :=
  setup.handlers.forM fun handler =>
    match handler with
    | .file path => appendText path ((setup.kept messages).flatMap Message.line)
    | _ => pure ()

end CueWatch.Journal
