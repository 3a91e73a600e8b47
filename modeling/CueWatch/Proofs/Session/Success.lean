import CueWatch.Proofs.Session.Processes

/-!
Contract: when the commands of a session succeed, told by the process that is run and by the files.

Owns:
- `FormatSucceeds`, `LintSucceeds` and `EvaluationSucceeds`, which speak of the process, its code
  and its output, and of the files that are read and written, but not of messages;
- `Command.Succeeds`, which is one of these for each command, and that a command succeeds in this
  sense exactly if no failure escapes from it, the last error is empty and, for a lint, there are no
  findings;
- `Command.missesCue`, that a command ends because the `cue` program is missing, which is the only
  failure that escapes where no process is interrupted.

Does not own: what is printed about a command (`Proofs.CommandLine`).
-/

namespace CueWatch.Session

open Attempt

/-! ### What success is -/

/-- A format succeeds: its process runs and ends with the code zero, and the file can be read
again. -/
def FormatSucceeds (session : Session) : Prop :=
  ∃ result ran text,
    (session.cue.run (.array (Cue.words ["fmt", session.source]))
      (some (Spelling.directory session.source))).run session.host = (.ok result, ran) ∧
    result.code = 0 ∧ ran.readText session.source = .ok text

/-- A lint succeeds: the module root is found, the process runs in it, and its report holds no
finding, which can be published. -/
def LintSucceeds (session : Session) : Prop :=
  ∃ root found result ran key,
    (ModuleRoot.ofFile session.settings session.source session.workspaceFolder).run
      session.notedLint.host = (.ok root, found) ∧
    (session.cue.vet session.source session.lintFlags (some root)).run found = (.ok result, ran) ∧
    Report.parse result.stderr = .ok [] ∧ ran.canonical session.source = .ok key

/-- An evaluation succeeds: its output type is one, its process runs and ends with the code zero,
and the file of the result is written. -/
def EvaluationSucceeds (expressions outType : Settings.Value) (session : Session) : Prop :=
  ∃ directory items format result ran place made,
    session.evalDirectory = .ok directory ∧ expressions.items = .ok items ∧
    OutType.ofValue? (chosenOutType outType session.state) = some format ∧
    (session.cue.run (.array (Cue.evalArguments session.source items format))
      (some directory)).run session.host = (.ok result, ran) ∧
    result.code = 0 ∧ (session.scratch.allocate "eval").run ran = (.ok place, made) ∧
    ((Host.writeText (evalFileIn place format) result.stdout).run made).1 = .ok ()

/-! ### Formats -/

theorem run_runChecked_eq_ok_iff {cue : Cue} {arguments : List Settings.Value}
    {directory : Option Text} {host ran : Host} {result : ProcessResult} :
    (cue.runChecked arguments directory).run host = (.ok result, ran) ↔
      (cue.run (.array arguments) directory).run host = (.ok result, ran) ∧ result.code = 0 := by
  rw [Cue.runChecked, run_bind_eq_ok_iff]
  constructor
  · rintro ⟨own, reached, isRun, checked⟩
    split at checked
    next wentWell =>
      obtain ⟨same, rfl⟩ := Prod.mk.inj checked
      obtain rfl := Except.ok.inj same
      exact ⟨isRun, wentWell⟩
    next => cases checked
  · rintro ⟨isRun, wentWell⟩
    refine ⟨result, ran, isRun, ?_⟩
    rw [if_pos wentWell]
    rfl

theorem run_onHost_of_ok {α : Type} {step : Attempt Host α} {session : Session} {value : α}
    {host : Host} (ran : step.run session.host = (.ok value, host)) :
    (onHost step).run session = (.ok value, { session with host := host }) := by
  rw [onHost, run_within, ran]

theorem run_onHost_of_error {α : Type} {step : Attempt Host α} {session : Session}
    {failure : Failure} {host : Host} (ran : step.run session.host = (.error failure, host)) :
    (onHost step).run session = (.error failure, { session with host := host }) := by
  rw [onHost, run_within, ran]

theorem exists_of_run_onHost_ok {α : Type} {step : Attempt Host α} {session reached : Session}
    {value : α} (ran : (onHost step).run session = (.ok value, reached)) :
    ∃ host, step.run session.host = (.ok value, host) ∧
      reached = { session with host := host } := by
  rw [onHost, run_within] at ran
  obtain ⟨same, rfl⟩ := Prod.mk.inj ran
  exact ⟨_, Prod.ext same rfl, rfl⟩

theorem formatSucceeds_iff (session : Session) :
    FormatSucceeds session ↔ (formatBody.run session).1 = .ok () := by
  constructor
  · rintro ⟨result, ran, text, isRun, wentWell, isRead⟩
    have checked : (session.cue.fmt session.source (some (Spelling.directory session.source))).run
        session.host = (.ok result, ran) := run_runChecked_eq_ok_iff.mpr ⟨isRun, wentWell⟩
    have read : (Attempt.require fun session => session.host.readText session.source).run
        { session with host := ran } = (.ok text, { session with host := ran }) :=
      congrArg (·, _) isRead
    rw [formatBody, run_bind_of_ok (run_look id session), id,
      run_bind_of_ok (run_onHost_of_ok checked), run_bind, reloadSource, run_bind_of_ok read]
    rfl
  · intro succeeded
    rw [formatBody, run_bind_of_ok (run_look id session)] at succeeded
    obtain ⟨result, formatted, isRun, succeeded⟩ := exists_of_run_bind_ok succeeded
    obtain ⟨ran, checked, rfl⟩ := exists_of_run_onHost_ok isRun
    obtain ⟨_, _, reloaded, -⟩ := exists_of_run_bind_ok succeeded
    obtain ⟨text, _, read, -⟩ := exists_of_run_bind_ok (congrArg Prod.fst reloaded)
    obtain ⟨isRun, wentWell⟩ := run_runChecked_eq_ok_iff.mp checked
    exact ⟨result, ran, text, isRun, wentWell, (Prod.mk.inj read).1⟩

/-! ### Lints -/

theorem severity_of_feed {reader : Report.Reader} {line : Text} {diagnostic : Diagnostic}
    (found : (reader.feed line).finding = .ok (some diagnostic)) :
    diagnostic.severity = Diagnostic.errorSeverity := by
  unfold Report.Reader.feed at found
  split at found
  next => cases found
  next =>
    split at found
    next => cases found
    next location _ =>
      dsimp only at found
      split at found
      next => cases found
      next =>
        unfold Location.diagnostic at found
        split at found
        next => cases found
        next =>
          split at found
          next => cases found
          next =>
            obtain rfl := Option.some.inj (Except.ok.inj found)
            rfl

theorem severity_of_read {reader : Report.Reader} {lines : List Text}
    {diagnostics : List Diagnostic} (read : reader.read lines = .ok diagnostics) :
    ∀ diagnostic ∈ diagnostics, diagnostic.severity = Diagnostic.errorSeverity := by
  induction lines generalizing reader diagnostics with
  | nil =>
      obtain rfl := Except.ok.inj read
      rintro diagnostic ⟨⟩
  | cons line rest inductionHypothesis =>
      unfold Report.Reader.read at read
      dsimp only at read
      split at read
      next => cases read
      next => exact inductionHypothesis read
      next first found =>
        cases later : (reader.feed line).reader.read rest with
        | error failure =>
            rw [later] at read
            cases read
        | ok others =>
            rw [later] at read
            obtain rfl := Except.ok.inj read
            intro diagnostic member
            rcases List.mem_cons.mp member with rfl | isLater
            · exact severity_of_feed found
            · exact inductionHypothesis later diagnostic isLater

/-- Every finding of a report is an error, so that there are none if there are no errors. -/
theorem any_error_eq_false_iff {report : Text} {diagnostics : List Diagnostic}
    (read : Report.parse report = .ok diagnostics) :
    (diagnostics.any fun diagnostic => diagnostic.severity = Diagnostic.errorSeverity) = false ↔
      diagnostics = [] := by
  have severity := severity_of_read read
  cases diagnostics with
  | nil => simp
  | cons diagnostic others => simp [severity diagnostic List.mem_cons_self]

/-- The session after the process of a lint has run in a module root. -/
def vetted (session : Session) (root report : Text) (ran : Host) : Session :=
  { session with
    host := ((Host.log .debug ("vet stderr:\n" ++ report)).run ran).2
    state := { session.state with moduleRoot := root } }

theorem run_findModuleRoot_of_ok {session : Session} {root : Text} {found : Host}
    (located : (ModuleRoot.ofFile session.settings session.source session.workspaceFolder).run
      session.host = (.ok root, found)) :
    findModuleRoot.run session =
      (.ok root,
        { session with host := found, state := { session.state with moduleRoot := root } }) := by
  rw [findModuleRoot, run_bind_of_ok (run_look id session), id,
    run_bind_of_ok (run_onHost_of_ok located)]
  rfl

theorem exists_of_run_findModuleRoot_ok {session reached : Session} {root : Text}
    (succeeded : findModuleRoot.run session = (.ok root, reached)) :
    ∃ root found,
      (ModuleRoot.ofFile session.settings session.source session.workspaceFolder).run
        session.host = (.ok root, found) := by
  rw [findModuleRoot, run_bind_of_ok (run_look id session)] at succeeded
  obtain ⟨root, _, isFound, -⟩ := run_bind_eq_ok_iff.mp succeeded
  obtain ⟨found, located, -⟩ := exists_of_run_onHost_ok isFound
  exact ⟨root, found, located⟩

theorem run_vet_eq_ok_iff {session reached : Session} {result : ProcessResult} :
    vet.run session = (.ok result, reached) ↔ ∃ root found ran,
      (ModuleRoot.ofFile session.settings session.source session.workspaceFolder).run
        session.host = (.ok root, found) ∧
      (session.cue.vet session.source session.lintFlags (some root)).run found =
        (.ok result, ran) ∧
      reached = session.vetted root result.stderr ran := by
  have run_of_located : ∀ {root : Text} {found : Host},
      (ModuleRoot.ofFile session.settings session.source session.workspaceFolder).run
        session.host = (.ok root, found) →
      ∀ {result : ProcessResult} {ran : Host},
        (session.cue.vet session.source session.lintFlags (some root)).run found =
          (.ok result, ran) →
        vet.run session = (.ok result, session.vetted root result.stderr ran) := by
    intro root found located result ran isRun
    rw [vet, run_bind_of_ok (run_findModuleRoot_of_ok located), run_bind_of_ok (run_look id _), id,
      run_bind_of_ok (run_onHost_of_ok isRun)]
    rfl
  constructor
  · intro succeeded
    -- A run that has succeeded is opened only as far as what the module root and the process were;
    -- that it has ended as `vetted` says then follows from the other direction.
    obtain ⟨root, between, rooted, later⟩ := run_bind_eq_ok_iff.mp succeeded
    obtain ⟨root, found, located⟩ := exists_of_run_findModuleRoot_ok rooted
    rw [run_findModuleRoot_of_ok located] at rooted
    obtain ⟨same, rfl⟩ := Prod.mk.inj rooted
    obtain rfl := Except.ok.inj same
    rw [run_bind_of_ok (run_look id _)] at later
    obtain ⟨own, _, ranOnHost, -⟩ := run_bind_eq_ok_iff.mp later
    obtain ⟨ran, isRun, -⟩ := exists_of_run_onHost_ok ranOnHost
    have outcome := succeeded.symm.trans (run_of_located located isRun)
    obtain ⟨same, rfl⟩ := Prod.mk.inj outcome
    obtain rfl := Except.ok.inj same
    exact ⟨root, found, ran, located, isRun, rfl⟩
  · rintro ⟨root, found, ran, located, isRun, rfl⟩
    exact run_of_located located isRun

theorem lintSucceeds_iff (session : Session) :
    LintSucceeds session ↔
      ∃ report, session.lintReport? = some report ∧ Report.parse report = .ok [] := by
  constructor
  · rintro ⟨root, found, result, ran, key, located, isRun, read, placed⟩
    have vetted : vet.run session.begun =
        (.ok result, session.begun.vetted root result.stderr ran) :=
      run_vet_eq_ok_iff.mpr ⟨root, found, ran, located, isRun, rfl⟩
    refine ⟨result.stderr, ?_, read⟩
    have published : (session.begun.vetted root result.stderr ran).place = .ok key := placed
    simp only [lintReport?, vetted, read, published]
  · rintro ⟨report, linted, read⟩
    unfold lintReport? at linted
    split at linted
    next => cases linted
    next result reached vetted =>
      obtain ⟨root, found, ran, located, isRun, rfl⟩ := run_vet_eq_ok_iff.mp vetted
      split at linted
      next key _ placed =>
        obtain rfl := Option.some.inj linted
        exact ⟨root, found, result, ran, key, located, isRun, read, placed⟩
      next => cases linted

/-! ### Evaluations -/

theorem run_eval_eq_ok_iff {cue : Cue} {file output : Text} {items : List Settings.Value}
    {outType : Settings.Value} {directory : Option Text} {host ran : Host} :
    (cue.eval file (.array items) outType directory).run host = (.ok output, ran) ↔
      ∃ format result, OutType.ofValue? outType = some format ∧
        (cue.run (.array (Cue.evalArguments file items format)) directory).run host =
          (.ok result, ran) ∧
        result.code = 0 ∧ result.stdout = output := by
  rw [Cue.eval]
  cases isType : OutType.ofValue? outType with
  | none =>
      constructor
      · rintro ⟨⟩
      · rintro ⟨format, _, ⟨⟩, _⟩
  | some format =>
      dsimp only
      rw [Settings.Value.items, Settings.Value.items?, ofExcept_bind_ok, run_bind_eq_ok_iff]
      constructor
      · rintro ⟨result, reached, checked, gave⟩
        obtain ⟨same, rfl⟩ := Prod.mk.inj gave
        obtain ⟨isRun, wentWell⟩ := run_runChecked_eq_ok_iff.mp checked
        exact ⟨format, result, rfl, isRun, wentWell, Except.ok.inj same⟩
      · rintro ⟨_, result, same, isRun, wentWell, rfl⟩
        obtain rfl := Option.some.inj same
        exact ⟨result, ran, run_runChecked_eq_ok_iff.mpr ⟨isRun, wentWell⟩, rfl⟩

/-- An evaluation that succeeds has found its directory and its expressions, has run its process, has
made a place for the output and has written it there, in this order. -/
theorem exists_of_run_evaluateBody_ok {expressions outType : Settings.Value}
    {session reached : Session} {file? : Option Text}
    (ran : (evaluateBody expressions outType).run session = (.ok file?, reached)) :
    ∃ directory items output evaluated place made format kept,
      session.evalDirectory = .ok directory ∧ expressions.items = .ok items ∧
      (session.cue.eval session.source (.array items) outType (some directory)).run session.host =
        (.ok output, evaluated) ∧
      (session.scratch.allocate "eval").run evaluated = (.ok place, made) ∧
      OutType.ofValue outType = .ok format ∧
      (Host.writeText (evalFileIn place format) output).run made = (.ok (), kept) ∧
      file? = some (evalFileIn place format) ∧
      reached =
        { session with
          host := kept
          state :=
            (session.state.withEval output outType (some (evalFileIn place format))).withStatus
              ("Evaluated as " ++ outType.shown) } := by
  obtain ⟨directory, _, chdir, ran⟩ := run_bind_eq_ok_iff.mp ran
  obtain ⟨located, rfl⟩ := Prod.mk.inj chdir
  obtain ⟨items, _, gave, ran⟩ := run_bind_eq_ok_iff.mp ran
  rw [run_ofExcept] at gave
  obtain ⟨listed, rfl⟩ := Prod.mk.inj gave
  rw [run_bind_of_ok (run_look id _), id] at ran
  obtain ⟨output, _, ranOnHost, ran⟩ := run_bind_eq_ok_iff.mp ran
  obtain ⟨evaluated, isRun, rfl⟩ := exists_of_run_onHost_ok ranOnHost
  obtain ⟨place, _, madeOnHost, ran⟩ := run_bind_eq_ok_iff.mp ran
  obtain ⟨made, allocated, rfl⟩ := exists_of_run_onHost_ok madeOnHost
  obtain ⟨format, _, named, ran⟩ := run_bind_eq_ok_iff.mp ran
  rw [run_ofExcept] at named
  obtain ⟨isType, rfl⟩ := Prod.mk.inj named
  obtain ⟨_, _, wroteOnHost, ran⟩ := run_bind_eq_ok_iff.mp ran
  obtain ⟨kept, wrote, rfl⟩ := exists_of_run_onHost_ok wroteOnHost
  obtain ⟨same, rfl⟩ := Prod.mk.inj ran
  exact ⟨directory, items, output, evaluated, place, made, format, kept, located, listed, isRun,
    allocated, isType, wrote, (Except.ok.inj same).symm, rfl⟩

theorem evaluationSucceeds_iff (expressions outType : Settings.Value) (session : Session) :
    EvaluationSucceeds expressions outType session ↔
      ∃ file, ((evaluateBody expressions (chosenOutType outType session.state)).run session).1 =
        .ok file := by
  rw [EvaluationSucceeds]
  generalize chosenOutType outType session.state = chosen
  constructor
  · rintro ⟨directory, items, format, result, ran, place, made, located, listed, isType, isRun,
      wentWell, allocated, written⟩
    have evaluated := run_eval_eq_ok_iff.mpr ⟨format, result, isType, isRun, wentWell, rfl⟩
    have named : OutType.ofValue chosen = .ok format := by rw [OutType.ofValue, isType]
    rcases wrote : (Host.writeText (evalFileIn place format) result.stdout).run made with
      ⟨failure | _, kept⟩
    · rw [wrote] at written
      cases written
    · have chdir : (Attempt.require evalDirectory).run session = (.ok directory, session) :=
        congrArg (·, session) located
      refine ⟨some (evalFileIn place format), ?_⟩
      rw [evaluateBody, run_bind_of_ok chdir, listed, ofExcept_bind_ok,
        run_bind_of_ok (run_look id session), id, run_bind_of_ok (run_onHost_of_ok evaluated),
        run_bind_of_ok (run_onHost_of_ok allocated), named, ofExcept_bind_ok,
        run_bind_of_ok (run_onHost_of_ok wrote)]
      rfl
  · rintro ⟨file, succeeded⟩
    obtain ⟨directory, items, output, ran, place, made, format, kept, located, listed, evaluated,
      allocated, named, wrote, -⟩ := exists_of_run_evaluateBody_ok (Prod.ext succeeded rfl)
    obtain ⟨own, result, isType, isRun, wentWell, rfl⟩ := run_eval_eq_ok_iff.mp evaluated
    rw [OutType.ofValue, isType] at named
    obtain rfl := Except.ok.inj named
    exact ⟨directory, items, own, result, ran, place, made, located, listed, isType, isRun,
      wentWell, allocated, congrArg Prod.fst wrote⟩

theorem isSome_of_run_evaluateBody {expressions outType : Settings.Value}
    {session reached : Session} {file : Option Text}
    (ran : (evaluateBody expressions outType).run session = (.ok file, reached)) :
    file.isSome = true := by
  obtain ⟨_, _, _, _, _, _, _, _, _, _, _, _, _, _, rfl, -⟩ := exists_of_run_evaluateBody_ok ran
  rfl

/-- An evaluation gives a file exactly if it leaves no error. -/
theorem isSome_iff_of_run_evaluate {expressions outType : Settings.Value}
    {session reached : Session} {file : Option Text}
    (ran : (evaluate expressions outType).run session = (.ok file, reached)) :
    file.isSome = true ↔ reached.state.lastError = [] := by
  let chosen := chosenOutType outType session.state
  have kept := quiet_evaluateBody expressions chosen
    { session with state := session.state.withError [] }
  change (perform .evaluate none (evaluateBody expressions chosen)).run session = _ at ran
  rcases exists_of_run_perform_ok ran with ⟨between, body, rfl⟩ | ⟨rfl, failure, between, _, rfl⟩
  · -- The last error was cleared before, and nothing in the evaluation sets it again.
    rw [body] at kept
    have silent : between.state.lastError = [] := kept
    simp [isSome_of_run_evaluateBody body, silent]
  · simp [failureMessage_ne_nil]

/-! ### Every command -/

def Command.Succeeds (session : Session) : Command → Prop
  | .lint => LintSucceeds session
  | .evaluate expressions outType => EvaluationSucceeds expressions outType session
  | .format => FormatSucceeds session

/-- Whether a session shows that the command before it has found something, although it has not
failed. -/
def Command.hasFindings (after : Session) : Command → Bool
  | .lint => after.state.hasErrors
  | .evaluate _ _ => false
  | .format => false

theorem not_exists_error_iff {α : Type} {outcome : Except Failure α} :
    (¬∃ failure, outcome = .error failure) ↔ ∃ value, outcome = .ok value := by
  cases outcome <;> simp

theorem lintSucceeds_iff_not_fails (session : Session) :
    LintSucceeds session ↔
      ¬Fails lint session ∧ (lint.run session).2.state.hasErrors = false := by
  rw [lintSucceeds_iff, fails_lint_iff, ← ne_eq, Option.ne_none_iff_exists']
  constructor
  · rintro ⟨report, linted, read⟩
    obtain ⟨diagnostics, _, readAgain, -, board⟩ := board_lint_of_some linted
    obtain rfl := Except.ok.inj (read.symm.trans readAgain)
    have shown : (lint.run session).2.state.diagnostics = [] := congrArg Board.diagnostics board
    refine ⟨⟨report, linted⟩, ?_⟩
    rw [State.hasErrors, shown]
    rfl
  · rintro ⟨⟨report, linted⟩, harmless⟩
    obtain ⟨diagnostics, _, read, -, board⟩ := board_lint_of_some linted
    have shown : (lint.run session).2.state.diagnostics = diagnostics :=
      congrArg Board.diagnostics board
    rw [State.hasErrors, shown, any_error_eq_false_iff read] at harmless
    rw [harmless] at read
    exact ⟨report, linted, read⟩

/-- A command succeeds exactly if it does not fail and has no findings. -/
theorem succeeds_iff_not_fails (command : Command) (session : Session) :
    command.Succeeds session ↔
      ¬Fails command.perform session ∧ command.hasFindings (command.after session) = false := by
  cases command with
  | lint => exact lintSucceeds_iff_not_fails session
  | evaluate expressions outType =>
      have body := fails_perform_iff .evaluate none
        (quiet_evaluateBody expressions (chosenOutType outType session.state)) session
      rw [fails_perform_evaluate_iff, Command.hasFindings, and_iff_left rfl]
      refine Iff.trans ?_ (not_congr body).symm
      rw [not_exists_error_iff]
      exact evaluationSucceeds_iff expressions outType
        { session with state := session.state.withError [] }
  | format =>
      have body := fails_perform_iff .format () quiet_formatBody session
      rw [Command.hasFindings, and_iff_left rfl]
      refine Iff.trans ?_ (not_congr body).symm
      rw [not_exists_error_iff]
      refine Iff.trans
        (formatSucceeds_iff { session with state := session.state.withError [] }) ?_
      exact ⟨fun succeeded => ⟨(), succeeded⟩, fun ⟨_, succeeded⟩ => succeeded⟩

/-- A command from which no failure escapes succeeds exactly if it leaves no error and no
findings. -/
theorem succeeds_iff_of_finished {command : Command} {session : Session}
    (finished : (command.perform.run session).1 = .ok ()) :
    command.Succeeds session ↔
      (command.after session).state.lastError = [] ∧
        command.hasFindings (command.after session) = false := by
  have fails_iff : Fails command.perform session ↔
      (command.after session).state.lastError ≠ [] := by
    rw [Fails, finished]
    simp [Command.after]
  rw [succeeds_iff_not_fails, fails_iff, Decidable.not_not]

def Command.missesCue (session : Session) (command : Command) : Bool :=
  match (command.perform.run session).1 with
  | .ok _ => false
  | .error failure => failure.isCueMissing

theorem escapes_of_run_perform_error {α : Type} {action : Action} {otherwise : α}
    {body : Attempt Session α} {session : Session} {failure : Failure}
    (failed : ((perform action otherwise body).run session).1 = .error failure) :
    escapes failure = true := by
  rcases ran : body.run { session with state := session.state.withError [] } with
    ⟨stopped | value, reached⟩
  · rw [run_perform_of_error ran] at failed
    split at failed
    next escaping =>
      obtain rfl := Except.error.inj failed
      exact escaping
    next => cases failed
  · rw [run_perform_of_ok ran] at failed
    cases failed

theorem escapes_of_command_error {command : Command} {session : Session} {failure : Failure}
    (failed : (command.perform.run session).1 = .error failure) : escapes failure = true := by
  cases command with
  | lint =>
      have noted : ((perform .lint () lintBody).run session.notedLint).1 = .error failure := failed
      exact escapes_of_run_perform_error noted
  | evaluate expressions outType =>
      rw [Command.perform, run_bind] at failed
      rcases ran : (evaluate expressions outType).run session with ⟨stopped | file, reached⟩
      · rw [ran] at failed
        obtain rfl := Except.error.inj failed
        exact escapes_of_run_perform_error (congrArg Prod.fst ran)
      · rw [ran] at failed
        cases failed
  | format => exact escapes_of_run_perform_error failed

/-- Where no process is interrupted, only the missing `cue` program ends a command. -/
theorem isCueMissing_of_command_error {command : Command} {session : Session} {failure : Failure}
    (calm : session.host.Calm) (failed : (command.perform.run session).1 = .error failure) :
    failure.isCueMissing = true := by
  have escaping := escapes_of_command_error failed
  have ordinary := (starts_command command).reportable session calm failure failed
  rwa [escapes, ordinary, Bool.or_false] at escaping

/-- No command makes the session one on another file. -/
theorem source_after (command : Command) (session : Session) :
    (command.after session).source = session.source := by
  have kept := congrArg Session.source (after_eq_workOf command session)
  rw [kept]
  cases command <;> rfl

theorem calm_after {session : Session} (command : Command) (calm : session.host.Calm) :
    (command.after session).host.Calm :=
  calm.of_suffix ((starts_command command).outcomes session)

end CueWatch.Session
