import CueWatch.Text.Digit
import CueWatch.Text.Quoted

/-!
Contract: the options of the command line.

Owns:
- `Options`, what the user asks for;
- `Flag` with its spellings, and how an argument is taken apart: abbreviations of long options,
  values joined by `=` or written directly after a letter, letters joined together, numbers and
  words with blanks as words, and `--`, after which everything is a word;
- `parse`, with its complaints, and the help text.

Two cases are ruled differently in earlier and later versions of such option parsers, and the
earlier rules are followed: `--` joined to an option as its value leaves no text, and letters after
`-v` that are no options are a value that `-v` does not take. By the later rules `--` is kept as the
value, and such letters are unrecognized arguments.

Does not own: carrying out what is asked for (`CommandLine.Run`).
-/

namespace CueWatch.CommandLine

/-- The value of an option. A separator given as a value leaves no text. -/
abbrev OptionValue : Type := Option Text

/-- What the user asks for. -/
structure Options where
  file : Option Text
  workspace : Option OptionValue
  lint : Bool
  eval : Bool
  expressions : List OptionValue
  out : Option OptionValue
  fmt : Bool
  flags : Option OptionValue
  verbose : Bool
deriving DecidableEq, Repr

def Options.none : Options :=
  { file := .none
    workspace := .none
    lint := false
    eval := false
    expressions := []
    out := .none
    fmt := false
    flags := .none
    verbose := false }

inductive Flag where
  | help
  | workspace
  | lint
  | eval
  | expression
  | out
  | fmt
  | flags
  | verbose
deriving DecidableEq, Repr

namespace Flag

def takesValue : Flag → Bool
  | .workspace => true
  | .expression => true
  | .out => true
  | .flags => true
  | _ => false

/-- All spellings, in the order in which they are tried and listed. -/
def spellings : List (Text × Flag) :=
  [ ("-h", .help), ("--help", .help), ("--workspace", .workspace), ("-w", .workspace),
    ("--lint", .lint), ("--eval", .eval), ("-e", .expression), ("--expression", .expression),
    ("--out", .out), ("--fmt", .fmt), ("--flags", .flags), ("--verbose", .verbose),
    ("-v", .verbose) ]

def ofSpelling? (spelling : Text) : Option Flag :=
  (spellings.find? fun pair => pair.1 = spelling).map Prod.snd

def name (flag : Flag) : Text :=
  Text.join ['/'] ((spellings.filter fun pair => pair.2 = flag).map Prod.fst)

end Flag

/-- Why the command line is not accepted, or that help is asked for. -/
inductive Stop where
  | help
  | complaint (message : Text)
deriving DecidableEq, Repr

def complain {α : Type} (flag : Flag) (message : Text) : Except Stop α :=
  .error (.complaint ("argument " ++ flag.name ++ ": " ++ message))

/-- What an argument is: a word, the separator, or an option as spelled, with the value joined to
it. An option may be unknown. -/
inductive Token where
  | word
  | separator
  | option (flag : Option Flag) (spelling : Text) (joined : Option Text)
deriving DecidableEq, Repr

/-- The separator after which everything is a word. -/
def separatorText : Text := "--"

def isDigits (t : Text) : Bool := !t.isEmpty && t.all Text.isDigit

/-- Whether an argument is a negative number, such as `-5` or `-.5`. A newline may end it. -/
def isNegativeNumber (argument : Text) : Bool :=
  let t := if argument.getLast? = some '\n' then argument.dropLast else argument
  match t with
  | '-' :: number =>
      isDigits number ||
        (match Text.cutAt '.' number with
         | some (whole, fraction) => whole.all Text.isDigit && isDigits fraction
         | none => false)
  | _ => false

/-- The options that an argument with two dashes may abbreviate. -/
def longCandidates (argument : Text) : List Token :=
  let (start, joined) :=
    match Text.cutAt '=' argument with
    | some (before, after) => (before, some after)
    | none => (argument, none)
  (Flag.spellings.filter fun pair => start.isPrefixOf pair.1).map fun pair =>
    .option (some pair.2) pair.1 joined

/-- The options that an argument with one dash may stand for: a letter with its value, or the
start of a spelling. -/
def shortCandidates (argument : Text) : List Token :=
  Flag.spellings.filterMap fun pair =>
    if pair.1 = argument.take 2 then some (.option (some pair.2) pair.1 (some (argument.drop 2)))
    else if argument.isPrefixOf pair.1 then some (.option (some pair.2) pair.1 none)
    else none

/-- The options that an argument may stand for. -/
def candidates (argument : Text) : List Token :=
  if separatorText.isPrefixOf argument then longCandidates argument else shortCandidates argument

def Token.spelling : Token → Text
  | .option _ spelling _ => spelling
  | _ => []

/-- The option before the first equals sign, if an argument has both. -/
def joinedOption? (argument : Text) : Option Token :=
  match Text.cutAt '=' argument with
  | some (before, after) =>
      (Flag.ofSpelling? before).map fun flag => .option (some flag) before (some after)
  | none => none

/-- What an argument is that begins with a dash and is no option as it stands. -/
def classifyDashed (argument : Text) : Except Stop Token :=
  match joinedOption? argument with
  | some token => .ok token
  | none =>
      match candidates argument with
      | [token] => .ok token
      | [] =>
          if isNegativeNumber argument || argument.contains ' ' then .ok .word
          else .ok (.option none argument none)
      | tokens =>
          .error (.complaint
            ("ambiguous option: " ++ argument ++ " could match " ++
              Text.join ", " (tokens.map Token.spelling)))

/-- What an argument is that is not the separator. -/
def classify (argument : Text) : Except Stop Token :=
  match argument with
  | '-' :: rest =>
      match Flag.ofSpelling? argument with
      | some flag => .ok (.option (some flag) argument none)
      | none => if rest.isEmpty then .ok .word else classifyDashed argument
  | _ => .ok .word

def classifyAll : List Text → Except Stop (List (Text × Token))
  | [] => .ok []
  | argument :: rest =>
      if argument = separatorText then
        .ok ((argument, .separator) :: rest.map fun word => (word, .word))
      else
        match classify argument with
        | .error stop => .error stop
        | .ok token => (classifyAll rest).map ((argument, token) :: ·)

/-- One thing to do: an option with its value. -/
abbrev Act : Type := Flag × Option OptionValue

/-- The value of an option as given. -/
def optionValue (given : Text) : OptionValue := if given = separatorText then none else some given

/-- The complaint about a value of an option without one. -/
def ignoredValue {α : Type} (flag : Flag) (joined : Text) : Except Stop α :=
  complain flag ("ignored explicit argument " ++ Text.quoted joined)

/-- What is to be done for an option with a value joined to it. The text joined to a letter without
a value is read as more letters; the last of them may be left to take the next argument. -/
def joinedActs (flag : Flag) (spelling : Text) :
    Text → Except Stop (List Act × Option Flag)
  | [] =>
      if flag.takesValue then .ok ([(flag, some (some []))], none) else ignoredValue flag []
  | letter :: rest =>
      if flag.takesValue then .ok ([(flag, some (optionValue (letter :: rest)))], none)
      else if separatorText.isPrefixOf spelling then ignoredValue flag (letter :: rest)
      else
        match Flag.ofSpelling? ['-', letter] with
        | none => ignoredValue flag (letter :: rest)
        | some next =>
            if rest.isEmpty then .ok ([(flag, none)], some next)
            else
              match joinedActs next ['-', letter] rest with
              | .error stop => .error stop
              | .ok (acts, last) => .ok ((flag, none) :: acts, last)

/-- What is to be done for an option that may take the next argument, and the arguments left. -/
def openAct (flag : Flag) (rest : List (Text × Token)) :
    Except Stop (Act × List (Text × Token)) :=
  if flag.takesValue then
    match rest with
    | (word, .word) :: rest => .ok ((flag, some (some word)), rest)
    | _ => complain flag "expected one argument"
  else .ok ((flag, none), rest)

/-- What is to be done for an option, and the arguments left. -/
def optionActs (flag : Flag) (spelling : Text) (joined : Option Text)
    (rest : List (Text × Token)) : Except Stop (List Act × List (Text × Token)) :=
  match joined with
  | none => (openAct flag rest).map fun opened => ([opened.1], opened.2)
  | some joined =>
      match joinedActs flag spelling joined with
      | .error stop => .error stop
      | .ok (acts, none) => .ok (acts, rest)
      | .ok (acts, some last) =>
          (openAct last rest).map fun opened => (acts ++ [opened.1], opened.2)

/-- The output types that are accepted. -/
def outChoices : List Text := ["yaml", "json", "text", "cue"]

def perform (options : Options) : Act → Except Stop Options
  | (.help, _) => .error .help
  | (.workspace, value) => .ok { options with workspace := value }
  | (.lint, _) => .ok { options with lint := true }
  | (.eval, _) => .ok { options with eval := true }
  | (.expression, value) =>
      .ok { options with expressions := options.expressions ++ value.toList }
  | (.out, some (some chosen)) =>
      if outChoices.contains chosen then .ok { options with out := some (some chosen) }
      else
        complain .out
          ("invalid choice: " ++ Text.quoted chosen ++ " (choose from " ++
            Text.join ", " (outChoices.map Text.quoted) ++ ")")
  | (.out, value) => .ok { options with out := value }
  | (.fmt, _) => .ok { options with fmt := true }
  | (.flags, value) => .ok { options with flags := value }
  | (.verbose, _) => .ok { options with verbose := true }

def performAll (options : Options) : List Act → Except Stop Options
  | [] => .ok options
  | act :: rest =>
      match perform options act with
      | .error stop => .error stop
      | .ok options => performAll options rest

def Token.isOption : Token → Bool
  | .option _ _ _ => true
  | _ => false

/-- What has been read: the options, whether the file has been read, and the arguments that nothing
takes. -/
structure Progress where
  options : Options
  hasFile : Bool
  extras : List Text
deriving DecidableEq, Repr

/-- Reads the arguments after the last option: the file, unless there is one, with the separator
before or after it. -/
def finish (progress : Progress) (rest : List (Text × Token)) : Progress :=
  if progress.hasFile then { progress with extras := progress.extras ++ rest.map Prod.fst }
  else
    let isSeparator : Text × Token → Bool := fun pair => pair.2 = .separator
    let afterSeparator := rest.dropWhile isSeparator
    match afterSeparator with
    | [] => progress
    | (word, _) :: rest =>
        { options := { progress.options with file := some word }
          hasFile := true
          extras := progress.extras ++ (rest.dropWhile isSeparator).map Prod.fst }

/-- Reads arguments from left to right. The count bounds the steps; the number of arguments is
enough. -/
def readFrom : Nat → Progress → List (Text × Token) → Except Stop Progress
  | 0, progress, rest => .ok (finish progress rest)
  | _ + 1, progress, [] => .ok (finish progress [])
  | steps + 1, progress, (argument, token) :: rest =>
      match token with
      | .option none _ _ =>
          readFrom steps { progress with extras := progress.extras ++ [argument] } rest
      | .option (some flag) spelling joined =>
          match optionActs flag spelling joined rest with
          | .error stop => .error stop
          | .ok (acts, rest) =>
              match performAll progress.options acts with
              | .error stop => .error stop
              | .ok options => readFrom steps { progress with options := options } rest
      | _ =>
          if !(rest.any fun pair => pair.2.isOption) then
            .ok (finish progress ((argument, token) :: rest))
          else if progress.hasFile then
            readFrom steps { progress with extras := progress.extras ++ [argument] } rest
          else
            readFrom steps
              { progress with
                options := { progress.options with file := some argument }
                hasFile := true }
              rest

def parse (arguments : List Text) : Except Stop Options :=
  match classifyAll arguments with
  | .error stop => .error stop
  | .ok tokens =>
      match readFrom tokens.length ⟨.none, false, []⟩ tokens with
      | .error stop => .error stop
      | .ok progress =>
          if progress.extras.isEmpty then .ok progress.options
          else
            .error (.complaint
              ("unrecognized arguments: " ++ Text.join " " progress.extras))

def programName : Text := "cuebolt"

def complaintLine (message : Text) : Text := programName ++ ": error: " ++ message

def helpLines : List Text :=
  [ "usage: cuebolt [-h] [--workspace WORKSPACE] [--lint] [--eval] [-e EXPRESSION] " ++
      "[--out \x7byaml,json,text,cue\x7d] [--fmt] [--flags FLAGS] [--verbose] [file]",
    "",
    "CueBolt: live lint & eval for CUE files",
    "",
    "positional arguments:",
    "  file                  .cue file to watch",
    "",
    "options:",
    "  -h, --help            show this help message and exit",
    "  --workspace WORKSPACE, -w WORKSPACE",
    "                        Workspace folder; upper bound for the cue.mod search",
    "  --lint                Run `cue vet` once and print diagnostics",
    "  --eval                Run `cue eval` once and print the output",
    "  -e EXPRESSION, --expression EXPRESSION",
    "                        Expression to evaluate (repeatable)",
    "  --out \x7byaml,json,text,cue\x7d",
    "                        Eval output type",
    "  --fmt                 Format the file in place with `cue fmt`",
    "  --flags FLAGS         Extra `cue vet` flags, e.g. \"-t env=prod\"",
    "  --verbose, -v         Log to the console" ]

def helpText : Text := helpLines.flatMap fun line => line ++ ['\n']

end CueWatch.CommandLine
