import CueWatch.Proofs.Cue.Command

/-!
Contract: an evaluation that the `cue` program is asked for, from the request to the answer.

Owns:
- `EvalRequest`, a file, expressions and a format, and the words of its command line;
- that these words tell requests apart, whatever their expressions look like;
- `verdict`, what is answered when the process of an evaluation has ended;
- `Answered`, the answer to a request: a format that is none is refused first, then a missing
  program, and otherwise exactly one process is started, which decides.

Does not own: what the process does (`Host.Process`), and what a session does with the answer
(`Proofs.Session.Outcome`).
-/

namespace CueWatch

open Attempt

/-- What can be asked of an evaluation. -/
structure EvalRequest where
  file : Text
  expressions : List Text
  format : OutType

namespace EvalRequest

/-! ### Command lines -/

/-- The words that choose expressions: each has a flag of its own. -/
def expressionWords (expressions : List Text) : List Text :=
  expressions.flatMap fun expression => ["-e", expression]

/-- The words after the expressions: the format, unless it is CUE itself, and that all values have to
be concrete. -/
def lastWords (format : OutType) : List Text :=
  if format = .cue then ["-c"] else ["--out", format.name, "-c"]

/-- The command line of an evaluation, the program apart. -/
def words (request : EvalRequest) : List Text :=
  "eval" :: request.file :: (expressionWords request.expressions ++ lastWords request.format)

/-- Expressions that look like flags do no harm: each of them has a flag in front of it, and what
follows the last one begins with another word. -/
theorem expressionWords_append_inj {expressions others rest otherRest : List Text}
    (ends : rest.head? ≠ some ['-', 'e']) (otherEnds : otherRest.head? ≠ some ['-', 'e'])
    (same : expressionWords expressions ++ rest = expressionWords others ++ otherRest) :
    expressions = others ∧ rest = otherRest := by
  induction expressions generalizing others with
  | nil =>
      cases others with
      | nil => exact ⟨rfl, same⟩
      | cons other others =>
          have begins : rest = ['-', 'e'] :: other :: (expressionWords others ++ otherRest) := same
          rw [begins] at ends
          exact absurd rfl ends
  | cons expression expressions inductionHypothesis =>
      cases others with
      | nil =>
          have begins : ['-', 'e'] :: expression :: (expressionWords expressions ++ rest) =
              otherRest := same
          rw [← begins] at otherEnds
          exact absurd rfl otherEnds
      | cons other others =>
          have chosen : expression :: (expressionWords expressions ++ rest) =
              other :: (expressionWords others ++ otherRest) := (List.cons.inj same).2
          obtain ⟨rfl, later⟩ := List.cons.inj chosen
          obtain ⟨rfl, rfl⟩ := inductionHypothesis later
          exact ⟨rfl, rfl⟩

theorem head?_lastWords (format : OutType) : (lastWords format).head? ≠ some ['-', 'e'] := by
  cases format <;> decide

theorem lastWords_injective : Function.Injective lastWords := by
  intro format other
  cases format <;> cases other <;> decide

/-- Different requests have different words. -/
theorem words_injective : Function.Injective words := by
  rintro ⟨file, expressions, format⟩ ⟨otherFile, others, otherFormat⟩ same
  obtain ⟨-, afterEval⟩ := List.cons.inj same
  obtain ⟨rfl, chosen⟩ := List.cons.inj afterEval
  obtain ⟨rfl, ends⟩ :=
    expressionWords_append_inj (head?_lastWords format) (head?_lastWords otherFormat) chosen
  obtain rfl := lastWords_injective ends
  rfl

/-- The arguments of an evaluation are its words. -/
theorem evalArguments_eq_words (request : EvalRequest) :
    Cue.evalArguments request.file (Cue.words request.expressions) request.format =
      Cue.words request.words := by
  have chosen : Cue.expressionArguments (Cue.words request.expressions) =
      Cue.words (expressionWords request.expressions) := by
    simp [Cue.expressionArguments, Cue.expressionFlag, Cue.words, expressionWords,
      List.flatMap_map, List.map_flatMap]
  have last : Cue.formatArguments request.format ++ Cue.words [Cue.concreteFlag] =
      Cue.words (lastWords request.format) := by
    rw [Cue.formatArguments, lastWords]
    split <;> rfl
  rw [Cue.evalArguments, List.append_assoc, last, chosen]
  simp [Cue.words, words]

/-! ### The answer -/

/-- What is answered when the process of an evaluation has ended. Its output counts if the code is
zero; if not, the complaint names the arguments. That the file of the program does not exist means
that `cue` is missing, and any other failure to run is passed on. -/
def verdict (arguments : List Text) : Except Failure ProcessResult → Except Failure Text
  | .ok result =>
      if result.code = 0 then .ok result.stdout
      else .error (.commandFailed arguments result.stderr result.code)
  | .error failure =>
      if failure.isMissingFile then .error (.cueMissing (some failure.message))
      else .error failure

/-- A request that names a format, to a program that there is, is answered by the end of its
process. -/
theorem run_eval_of_ready {cue : Cue} {program : Text} (found : cue.usable = some program)
    (request : EvalRequest) (directory : Option Text) (host : Host) :
    (cue.eval request.file (.array (Cue.words request.expressions)) (.text request.format.name)
      directory).run host =
      let ended := (Host.spawn (program :: request.words) directory).run
        (Cue.noted request.words directory host)
      (verdict request.words ended.1, ended.2) := by
  rw [Cue.eval, OutType.ofValue?_name]
  dsimp only
  rw [Settings.Value.items, Settings.Value.items?, ofExcept_bind_ok, evalArguments_eq_words,
    run_bind, Cue.runChecked, run_bind, Cue.run_words found, run_rescue, Cue.map_shown_words]
  rcases (Host.spawn (program :: request.words) directory).run
      (Cue.noted request.words directory host) with ⟨failure | result, reached⟩
  · dsimp only [run_fail]
    rw [verdict, Cue.missing]
    split <;> rfl
  · by_cases wentWell : result.code = 0 <;> simp [verdict, wentWell]

/-- How a request for an evaluation is answered, on a host and in a directory: the answer and the
host after it. A path that is empty is none. -/
structure Answered (cue : Cue) (file : Text) (expressions : List Text) (outType : Settings.Value)
    (directory : Option Text) (host : Host) (ended : Except Failure Text × Host) : Prop where
  /-- A value that names no format is refused, whether or not there is a program. -/
  unsupported : (∀ format : OutType, outType ≠ .text format.name) →
    ended = (.error (.unsupportedOutType outType.shown), host)
  /-- Without a program nothing is started either. -/
  missing : ∀ format : OutType, outType = .text format.name →
    (∀ program, cue.path = some program → program = []) →
      ended = (.error (.cueMissing none), host)
  /-- Otherwise one process is started, with the words of the request, and its end is judged. -/
  started : ∀ (format : OutType) (program : Text), outType = .text format.name →
    cue.path = some program → program ≠ [] →
      let arguments := words ⟨file, expressions, format⟩
      let process := (Host.spawn (program :: arguments) directory).run
        (Cue.noted arguments directory host)
      ended = (verdict arguments process.1, process.2) ∧
        ended.2.spawned = host.spawned ++ [⟨program :: arguments, directory⟩]

/-- A request for an evaluation is answered by its first fault, or by the one process that it
starts; and two requests that call a program with the same words are the same. -/
theorem evaluation_as_requested (cue : Cue) :
    (∀ (file : Text) (expressions : List Text) (outType : Settings.Value)
      (directory : Option Text) (host : Host),
      Answered cue file expressions outType directory host
        ((cue.eval file (.array (Cue.words expressions)) outType directory).run host)) ∧
    ∀ program : Text, Function.Injective fun request : EvalRequest => program :: request.words := by
  constructor
  · intro file expressions outType directory host
    constructor
    case unsupported =>
      intro noFormat
      have refused : OutType.ofValue? outType = none :=
        Option.eq_none_iff_forall_ne_some.mpr fun format named =>
          noFormat format (OutType.eq_of_ofValue? named)
      rw [Cue.eval, refused]
      rfl
    case missing =>
      rintro format rfl unknown
      rw [Cue.eval, OutType.ofValue?_name]
      dsimp only
      rw [Settings.Value.items, Settings.Value.items?, ofExcept_bind_ok, Cue.runChecked, Cue.run,
        Cue.usable_eq_none unknown]
      rfl
    case started =>
      rintro format program rfl path named arguments process
      have ran := run_eval_of_ready (Cue.usable_eq_some path named) ⟨file, expressions, format⟩
        directory host
      exact ⟨ran, by rw [ran]; exact Host.spawned_spawn _ _ _⟩
  · intro program request other same
    exact words_injective (List.cons.inj same).2

/-- A host on which the next process complains. -/
def complainingHost : Host where
  tree := .empty
  workingDirectory := FileTree.Spot.root
  environment := []
  accountHome := none
  programs := []
  temporary := "/tmp"
  outcomes := [⟨[], none, ⟨"1", "no such field", 1⟩⟩]
  spawned := []
  drawn := 0
  journal := []

/-- The words for expressions that look like the flags around them. -/
def flagLikeWords : List Text :=
  ["eval", "a.cue", "-e", "-e", "-e", "--out", "-e", "-c", "--out", "json", "-c"]

theorem flag_like_expressions_asked :
    let ended := (Cue.eval ⟨.text "cue", some "/bin/cue"⟩ "a.cue"
      (.array (Cue.words ["-e", "--out", "-c"])) (.text OutType.json.name) (some "/w")).run
        complainingHost
    ended.1 = .error (.commandFailed flagLikeWords "no such field" 1) ∧
      ended.2.spawned = [⟨"/bin/cue" :: flagLikeWords, some "/w"⟩] := by
  have asked : words ⟨"a.cue", ["-e", "--out", "-c"], .json⟩ = flagLikeWords := by decide
  have complained : ((Host.spawn ("/bin/cue" :: flagLikeWords) (some "/w")).run
      (Cue.noted flagLikeWords (some "/w") complainingHost)).1 = .ok ⟨"1", "no such field", 1⟩ := by
    decide +kernel
  have answered := (evaluation_as_requested ⟨.text "cue", some "/bin/cue"⟩).1 "a.cue"
    ["-e", "--out", "-c"] (.text OutType.json.name) (some "/w") complainingHost
  have ends := answered.started .json "/bin/cue" rfl rfl (by decide)
  dsimp only at ends
  rw [asked, complained] at ends
  exact ⟨congrArg Prod.fst ends.1, ends.2⟩

end EvalRequest

end CueWatch
