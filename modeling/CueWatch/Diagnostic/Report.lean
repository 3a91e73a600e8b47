import CueWatch.Diagnostic.Basic
import CueWatch.Failure
import CueWatch.Text.Blank
import CueWatch.Text.Lines

/-!
Contract: the report of `cue vet`, read into findings.

A report is a sequence of messages, each followed by indented locations `file:line:column`.

Owns:
- `Location`, the line form of a location, and `Location.ofLine?`, which reads it;
- `Reader`, what is remembered between two lines, and `Reader.feed`, which reads one line;
- `Report.parse`, which reads a whole report.

Does not own: running `cue` (`Cue`) and publishing findings (`Diagnostic.Collection`).
-/

namespace CueWatch

/-- A location as written: the file and the digits of line and column. -/
structure Location where
  file : Text
  line : Text
  column : Text
deriving DecidableEq, Repr

namespace Location

/-- The indent that every location has. -/
def indent : Text := "  "

/-- Splits the digits at the end of a text from the colon and the text before them. -/
def splitNumber? (t : Text) : Option (Text × Text) :=
  let digits := (t.reverse.takeWhile Text.isDigit).reverse
  match digits, t.reverse.dropWhile Text.isDigit with
  | _ :: _, ':' :: before => some (before.reverse, digits)
  | _, _ => none

/-- Reads `file:line:column`, where the file is not empty and may hold colons itself. -/
def ofText? (t : Text) : Option Location :=
  match splitNumber? t with
  | none => none
  | some (before, column) =>
      match splitNumber? before with
      | none => none
      | some (file, line) => if file.isEmpty then none else some ⟨file, line, column⟩

/-- A line without one newline at its end. -/
def withoutNewline (line : Text) : Text :=
  if line.getLast? = some '\n' then line.dropLast else line

/-- Reads an indented location that holds no newline but one at the end of the line. -/
def ofLine? (line : Text) : Option Location :=
  if indent.isPrefixOf line && !(withoutNewline line).contains '\n' then
    ofText? (withoutNewline line)
  else none

/-- The number of a run of digits, unless there are too many. -/
def number (digits : Text) : Except Failure Nat :=
  if Failure.digitLimit < digits.length then .error (.tooManyDigits digits.length)
  else .ok (Text.numeralValue digits)

/-- The finding at a location: lines are counted from zero there. -/
def diagnostic (message : Text) (location : Location) : Except Failure Diagnostic :=
  match number location.line with
  | .error failure => .error failure
  | .ok line =>
      match number location.column with
      | .error failure => .error failure
      | .ok column =>
          .ok ⟨(line : Int) - 1, column, Diagnostic.errorSeverity, message,
            Text.trim location.file⟩

end Location

namespace Report

/-- What the next line of text will be taken for. -/
inductive Expectation where
  | message
  | location
deriving DecidableEq, Repr

def Expectation.name : Expectation → Text
  | .message => "awaiting-message"
  | .location => "awaiting-location"

/-- What is remembered between two lines: whether anything has been read, and the message in
force. -/
structure Reader where
  expectation : Expectation
  message : Text
deriving DecidableEq, Repr

/-- Before the first line. -/
def Reader.initial : Reader := ⟨.message, []⟩

/-- Messages that hold this text report nothing. -/
def incompleteMark : Text := "incomplete value"

/-- Whether the message in force reports nothing. -/
def Reader.isSuppressed (reader : Reader) : Bool := Text.occurs incompleteMark reader.message

/-- A message line as remembered: trimmed, and without one colon at its end. -/
def messageOf (line : Text) : Text :=
  let trimmed := Text.trim line
  if trimmed.getLast? = some ':' then trimmed.dropLast else trimmed

/-- The result of one line: the reader after it, the finding it reports, and whether it is a
location before any message. -/
structure Step where
  reader : Reader
  finding : Except Failure (Option Diagnostic)
  isOrphan : Bool

def Reader.feed (reader : Reader) (line : Text) : Step :=
  if Text.isBlankText line then ⟨reader, .ok none, false⟩
  else
    match Location.ofLine? line with
    | none => ⟨⟨.location, messageOf line⟩, .ok none, false⟩
    | some location =>
        { reader := { reader with expectation := .location }
          finding :=
            if reader.isSuppressed then .ok none
            else (location.diagnostic reader.message).map some
          isOrphan := reader.expectation == .message }

/-- Reads lines one after another; the first failure counts. -/
def Reader.read (reader : Reader) : List Text → Except Failure (List Diagnostic)
  | [] => .ok []
  | line :: rest =>
      let step := reader.feed line
      match step.finding with
      | .error failure => .error failure
      | .ok none => step.reader.read rest
      | .ok (some diagnostic) => (step.reader.read rest).map (diagnostic :: ·)

def parse (report : Text) : Except Failure (List Diagnostic) :=
  Reader.initial.read (Text.reportLines report)

end Report

end CueWatch
