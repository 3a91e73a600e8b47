import CueWatch.Proofs.CommandLine.ExitCode
import CueWatch.Proofs.Console.Display
import CueWatch.Proofs.Session.Results

/-!
Contract: what a run prints that only evaluates.

Owns:
- that an evaluation which succeeds prints what its process has printed, as the console prints it,
  and that the same text, unchanged, is in the file of the result;
- from the command line on, for which outputs the two texts are the same on a console;
- an output that they are not the same for.

Does not own: exit codes of other runs (`ExitCode`), files of results in longer sessions
(`Session.Results`), and what a console does to a text (`Console.Display`).
-/

namespace CueWatch

open Attempt

/-- An evaluation succeeds exactly if it gives the file of its result. -/
theorem Session.evaluationSucceeds_iff_gives {expressions outType : Settings.Value}
    {session : Session} :
    EvaluationSucceeds expressions outType session ↔
      ∃ file evaluated, (evaluate expressions outType).run session =
        (.ok (some file), evaluated) := by
  let chosen := chosenOutType outType session.state
  let cleared : Session := { session with state := session.state.withError [] }
  have succeeds_iff : EvaluationSucceeds expressions outType session ↔
      ∃ file?, ((evaluateBody expressions chosen).run cleared).1 = .ok file? :=
    evaluationSucceeds_iff expressions outType cleared
  rw [succeeds_iff, evaluate]
  constructor
  · rintro ⟨file?, gave⟩
    let reached := ((evaluateBody expressions chosen).run cleared).2
    have body : (evaluateBody expressions chosen).run cleared = (.ok file?, reached) :=
      Prod.ext gave rfl
    obtain ⟨file, rfl⟩ := Option.isSome_iff_exists.mp (isSome_of_run_evaluateBody body)
    refine ⟨file, (notify.run reached).2, ?_⟩
    rw [run_bind_of_ok (run_look _ session)]
    exact run_perform_of_ok body
  · rintro ⟨file, evaluated, ran⟩
    rw [run_bind_of_ok (run_look _ session)] at ran
    rcases exists_of_run_perform_ok ran with ⟨between, body, -⟩ | ⟨⟨⟩, -⟩
    exact ⟨some file, congrArg Prod.fst body⟩

namespace CommandLine

variable {console : Console}

/-- A run that only evaluates, successfully, prints the output as the console prints it. -/
theorem OneShot.exists_of_run_evaluation {options : Options} {session evaluated : Session}
    {text file : Text} (unformatted : options.fmt = false) (unlinted : options.lint = false)
    (asked : isOneShot options = true)
    (readable : session.host.readText session.source = .ok text)
    (ran : (Session.evaluate (.array (options.expressions.map expressionValue))
      (outTypeValue options.out)).run (session.withSource text) = (.ok (some file), evaluated)) :
    ∃ shot, (OneShot.run console options).run ⟨session, [], 0⟩ = (.ok (), shot) ∧ shot.code = 0 ∧
      shot.printed = console.plain evaluated.state.evalOutput := by
  have evaluates : (options.eval || !options.expressions.isEmpty) = true := by
    simpa [isOneShot, unformatted, unlinted] using asked
  let shown : OneShot := ⟨evaluated, console.plain evaluated.state.evalOutput, 0⟩
  have evaluation :
      (eval console options.expressions options.out).run ⟨session.withSource text, [], 0⟩ =
        (.ok (), shown) := by
    rw [eval, run_bind_of_ok (run_onSession ran), run_bind_of_ok (run_look _ _)]
    rfl
  have carried :
      (carryOut console options).run ⟨session.withSource text, [], 0⟩ = (.ok (), shown) := by
    rw [carryOut, unformatted, unlinted, evaluates]
    exact evaluation
  have commanded : (commands console options).run ⟨session, [], 0⟩ = (.ok (), shown) :=
    (run_commands readable).trans carried
  refine ⟨(cleanup.run shown).2, ?_, rfl, rfl⟩
  rw [OneShot.run, run_ensuring, commandsOrComplaint, run_rescue, commanded]

/-- The scratch directory of a session that has been set up is a temporary one. -/
theorem isTemporary_of_setUp {options : Options} {file : Text} {host reached : Host}
    {session : Session}
    (prepared : (setUp console options file).run host = (.ok session, reached)) :
    Host.IsTemporary session.scratch.root := by
  obtain ⟨settings, _, _, configured, workspace, -, -, -, created⟩ := exists_of_setUp prepared
  exact Session.IsNew.isTemporary ⟨file, settings, workspace, configured, congrArg Prod.fst created⟩

/-- What comes of a run that evaluates once: the session and the file of the result hold the output
unchanged, and it is printed as the console prints it. It is printed unchanged exactly if it holds
no tab, no control character that is dropped and no code that has a picture, and its lines fit the
width of the console. If no character is wider than that, all solid characters are printed in order,
with pictures in place of the codes that have one. -/
structure ShowsOutput (console : Console) (options : Options) (begun : Session) (output : Text)
    (terminal ended : Terminal) : Prop where
  held : ∃ evalFile evaluated,
    (Session.evaluate (.array (options.expressions.map OneShot.expressionValue))
      (OneShot.outTypeValue options.out)).run begun = (.ok (some evalFile), evaluated) ∧
    evaluated.state.evalOutput = output ∧ evaluated.host.content evalFile = .ok (.text output)
  printed : ended.printed = terminal.printed ++ console.plain output
  unchanged_iff : ended.printed = terminal.printed ++ output ↔ console.AsWritten output
  solid : (∀ c, console.cells c ≤ console.width) →
    (console.plain output).filter Console.isSolid =
      (Console.replaceCodes console.picture output).filter Console.isSolid

/-- On every console whose tables are as documented, a run that only evaluates, successfully, exits
with the code zero and shows what its process has printed. -/
theorem eval_output_shown (documented : console.Documented) {arguments : List Text}
    {options : Options} {c : Char} {rest file text : Text} {terminal : Terminal} {session : Session}
    {host : Host}
    (parsed : parse arguments = .ok options) (asked : isOneShot options = true)
    (unformatted : options.fmt = false) (unlinted : options.lint = false)
    (named : options.file = some (c :: rest))
    (located : terminal.host.absolute (c :: rest) = .ok file)
    (readable : terminal.host.readText file = .ok text) (isCue : isSource file = true)
    (prepared : (setUp console options file).run terminal.host = (.ok session, host))
    (flags : options.flags ≠ some none)
    (succeeds : Session.EvaluationSucceeds
      (.array (options.expressions.map OneShot.expressionValue)) (OneShot.outTypeValue options.out)
      ((flagged options.flags session).withSource text))
    (panelEnding : Option Raised) :
    ∃ ended, (run console arguments panelEnding).run terminal = (.ok (.exited 0), ended) ∧
      ShowsOutput console options ((flagged options.flags session).withSource text)
        ((flagged options.flags session).withSource text).printed terminal ended := by
  obtain ⟨sourceKept, stillReadable, -⟩ := ready_of_setUp located readable prepared
  obtain ⟨evalFile, evaluated, ran⟩ := Session.evaluationSucceeds_iff_gives.mp succeeds
  have temporary : Host.IsTemporary
      ((flagged options.flags session).withSource text).scratch.root := by
    rw [Session.withSource, scratch_flagged]
    exact isTemporary_of_setUp prepared
  have resulted := Session.resulted_evaluate temporary ran
  obtain ⟨shot, shotRan, code, shown⟩ :=
    OneShot.exists_of_run_evaluation unformatted unlinted asked stillReadable ran
  rw [resulted.output] at shown
  have printed : (terminal.afterOneShot shot).printed = terminal.printed ++
      console.plain ((flagged options.flags session).withSource text).printed := by
    rw [← shown]
    rfl
  refine ⟨terminal.afterOneShot shot, ?_,
    { held := ⟨evalFile, evaluated, ran, resulted.output, resulted.content⟩
      printed := printed
      unchanged_iff := by
        rw [printed, List.append_cancel_left_eq, Console.plain_eq_self_iff documented]
      solid := fun narrow => Console.filter_isSolid_plain narrow _ }⟩
  rw [run_of_parsed parsed named located (Host.exists?_of_readText readable) isCue,
    run_work asked prepared flags shotRan panelEnding, code]
  rfl

/-- A terminal on which the next process prints something and succeeds. -/
def printingTerminal (output : Text) : Terminal :=
  { complainingTerminal with
    host := { complainingTerminal.host with outcomes := [⟨[], none, ⟨output, [], 0⟩⟩] } }

/-- The options that ask for an evaluation of the file. -/
def evaluateOnly : Options := { Options.none with file := some "/w/a.cue", eval := true }

/-- What the session of such a run holds after its evaluation, if the run can be set up. -/
def heldOutput? (terminal : Terminal) : Option Text :=
  match ((setUp (.standard 80) evaluateOnly "/w/a.cue").run terminal.host).1 with
  | .error _ => none
  | .ok session =>
      match (Session.evaluate (.array []) .null).run (session.withSource "x: 1") with
      | (.ok (some _), evaluated) => some evaluated.state.evalOutput
      | _ => none

theorem flat_output_unchanged :
    ∃ session ended,
      (run (.standard 80) ["/w/a.cue", "--eval"] none).run (printingTerminal "x: 1\n") =
        (.ok (.exited 0), ended) ∧
      ShowsOutput (.standard 80) evaluateOnly session "x: 1\n" (printingTerminal "x: 1\n") ended ∧
      ended.printed = "x: 1\n" := by
  have parsed : parse ["/w/a.cue", "--eval"] = .ok evaluateOnly := by decide +kernel
  have located : (printingTerminal "x: 1\n").host.absolute "/w/a.cue" = .ok "/w/a.cue" := by
    decide +kernel
  have readable : (printingTerminal "x: 1\n").host.readText "/w/a.cue" = .ok "x: 1" := by
    decide +kernel
  have isCue : isSource "/w/a.cue" = true := by decide +kernel
  have held : heldOutput? (printingTerminal "x: 1\n") = some "x: 1\n" := by decide +kernel
  unfold heldOutput? at held
  rcases prepared : (setUp (.standard 80) evaluateOnly "/w/a.cue").run
    (printingTerminal "x: 1\n").host with ⟨failure | session, host⟩
  · rw [prepared] at held
    cases held
  · rw [prepared] at held
    dsimp only at held
    split at held
    next file evaluated ran =>
      have temporary := isTemporary_of_setUp prepared
      have output := (Session.resulted_evaluate (by exact temporary) ran).output
      rw [Option.some.inj held] at output
      obtain ⟨ended, exits, shows⟩ :=
        eval_output_shown (Console.documented_standard 80) parsed rfl rfl rfl rfl located readable
          isCue prepared (by decide)
          (Session.evaluationSucceeds_iff_gives.mpr ⟨file, evaluated, ran⟩) none
      have printed : ((flagged evaluateOnly.flags session).withSource "x: 1").printed = "x: 1\n" :=
        output.symm
      rw [printed] at shows
      exact ⟨_, ended, exits, shows, shows.unchanged_iff.mpr ⟨by decide, by decide, by decide⟩⟩
    next => cases held

/-- The result of an evaluation whose lines are indented with tabs, as `cue` writes them. -/
def indentedOutput : Text := "a: \x7b\n\tb: 1\n\x7d\n"

/-- Blanks are printed in place of the tabs of an output. -/
theorem indented_output_changed :
    ((run (.standard 80) ["/w/a.cue", "--eval"] none).run (printingTerminal indentedOutput)).1 =
      .ok (.exited 0) ∧
    heldOutput? (printingTerminal indentedOutput) = some indentedOutput ∧
    ((run (.standard 80) ["/w/a.cue", "--eval"] none).run
      (printingTerminal indentedOutput)).2.printed = "a: \x7b\n        b: 1\n\x7d\n" ∧
    ((run (.standard 80) ["/w/a.cue", "--eval"] none).run
      (printingTerminal indentedOutput)).2.printed ≠ indentedOutput := by
  exact ⟨by decide +kernel, by decide +kernel, by decide +kernel, by decide +kernel⟩

end CommandLine

end CueWatch
