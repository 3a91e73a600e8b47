import CueWatch.Proofs.CommandLine.Course

/-!
Contract: a run of the requested commands, by the course of the commands.

Owns:
- `Carried`, the ways in which the step of a run ends that carries out one command, and that the
  steps for a format, a lint and an evaluation end so;
- `Ran`, the ways in which a step ends that carries out several commands one after the other;
- what the run of the requested commands comes to, if the path of a file that has been formatted can
  be read as marked text.

Does not own: the setting up of the session (`CommandLine.SetUp`).
-/

namespace CueWatch.CommandLine.OneShot

open Attempt

variable {console : Console}

/-! ### One command -/

/-- The ways in which a step ends that carries out a command: a failure escapes from the command,
and nothing else is done; or the run goes on, as a failure unless the command has succeeded. -/
inductive Carried (command : Session.Command) (shot : OneShot) :
    Except Failure Unit × OneShot → Prop
  | ended {failure : Failure} (escaped : (command.perform.run shot.session).1 = .error failure) :
      Carried command shot
        (.error failure, ⟨command.after shot.session, shot.printed, shot.code⟩)
  | succeeded {printed : Text} (finished : (command.perform.run shot.session).1 = .ok ())
      (succeeds : command.Succeeds shot.session) :
      Carried command shot (.ok (), ⟨command.after shot.session, printed, shot.code⟩)
  | failed {printed : Text} (finished : (command.perform.run shot.session).1 = .ok ())
      (fails : ¬command.Succeeds shot.session) :
      Carried command shot (.ok (), ⟨command.after shot.session, printed, 1⟩)

/-- A command leaves the run a failure exactly if it has left an error or findings. -/
theorem Carried.of_finished {command : Session.Command} {shot : OneShot} (printed : Text)
    {isGood : Bool} (finished : (command.perform.run shot.session).1 = .ok ())
    (good_iff : isGood = true ↔ (command.after shot.session).state.lastError = [] ∧
      command.hasFindings (command.after shot.session) = false) :
    Carried command shot
      (.ok (), ⟨command.after shot.session, printed, if isGood then shot.code else 1⟩) := by
  have succeeds_iff := Session.succeeds_iff_of_finished finished
  rw [← good_iff] at succeeds_iff
  cases isGood with
  | true => exact .succeeded finished (succeeds_iff.mpr rfl)
  | false => exact .failed finished fun succeeds => Bool.false_ne_true (succeeds_iff.mp succeeds)

theorem run_onSession {α : Type} {step : Attempt Session α} {shot : OneShot} {session : Session}
    {outcome : Except Failure α} (ended : step.run shot.session = (outcome, session)) :
    (onSession step).run shot = (outcome, ⟨session, shot.printed, shot.code⟩) := by
  rw [onSession, run_within, ended]

/-- A step that goes by what it finds in the session after a command: the run goes on, as a failure
unless the command has left neither an error nor findings. -/
def Judges (command : Session.Command) (tail : Attempt OneShot Unit) (shot : OneShot) : Prop :=
  ∃ printed isGood,
    tail.run shot = (.ok (), ⟨shot.session, printed, if isGood then shot.code else 1⟩) ∧
      (isGood = true ↔
        shot.session.state.lastError = [] ∧ command.hasFindings shot.session = false)

theorem carried_of_judges (command : Session.Command) {tail : Attempt OneShot Unit} {shot : OneShot}
    (judges : (command.perform.run shot.session).1 = .ok () →
      Judges command tail ⟨command.after shot.session, shot.printed, shot.code⟩) :
    Carried command shot ((onSession command.perform >>= fun _ => tail).run shot) := by
  rcases ended : command.perform.run shot.session with ⟨failure | _, session⟩
  · have own : command.after shot.session = session := congrArg Prod.snd ended
    rw [run_bind_of_error (run_onSession ended), ← own]
    exact .ended (congrArg Prod.fst ended)
  · have own : command.after shot.session = session := congrArg Prod.snd ended
    have finished : (command.perform.run shot.session).1 = .ok () := congrArg Prod.fst ended
    obtain ⟨printed, isGood, ran, good_iff⟩ := judges finished
    rw [run_bind_of_ok (run_onSession ended), ← own, ran]
    exact .of_finished printed finished good_iff

theorem run_print (text : Text) (shot : OneShot) :
    (print text).run shot = (.ok (), { shot with printed := shot.printed ++ text }) := rfl

theorem run_showLine (line : Text) (shot : OneShot) :
    (showLine console line).run shot =
      (.ok (), { shot with printed := shot.printed ++ (console.plain line ++ ['\n']) }) := rfl

/-! ### Formats -/

/-- What is printed when a file has been formatted can be read as marked text. -/
def Sayable (console : Console) (file : Text) : Prop :=
  ∃ shown, console.marked ("Formatted " ++ file) = .ok shown

theorem carried_format {shot : OneShot}
    (sayable : Session.Command.format.Succeeds shot.session →
      Sayable console shot.session.source) :
    Carried .format shot ((format console).run shot) := by
  refine carried_of_judges .format fun finished => ?_
  rw [Session.succeeds_iff_of_finished finished,
    ← Session.source_after .format shot.session] at sayable
  generalize Session.Command.format.after shot.session = session at sayable
  unfold Judges
  rw [run_bind_of_ok (run_look _ _)]
  dsimp only
  split
  next silent =>
    obtain ⟨shown, reads⟩ := sayable ⟨by simpa using silent, rfl⟩
    rw [reads, ofExcept_bind_ok]
    refine ⟨_, true, run_print (shown ++ ['\n']) _, ?_⟩
    simpa [Session.Command.hasFindings] using silent
  next noisy =>
    refine ⟨_, false, run_bind_of_ok (run_showLine _ _), ?_⟩
    simpa [Session.Command.hasFindings] using noisy

/-! ### Lints -/

theorem run_showLines (console : Console) (diagnostics : List Diagnostic) (shot : OneShot) :
    ∃ printed,
      (diagnostics.forM fun diagnostic =>
        print (console.unwrapped (diagnosticLine diagnostic) ++ ['\n'])).run shot =
          (.ok (), { shot with printed := printed }) := by
  induction diagnostics generalizing shot with
  | nil => exact ⟨shot.printed, rfl⟩
  | cons diagnostic others inductionHypothesis =>
      rw [List.forM, run_bind_of_ok (run_print _ shot)]
      exact inductionHypothesis _

theorem carried_lint (shot : OneShot) : Carried .lint shot ((lint console).run shot) := by
  refine carried_of_judges .lint fun _ => ?_
  generalize Session.Command.lint.after shot.session = session
  unfold Judges
  rw [run_bind_of_ok (run_look _ _)]
  dsimp only
  split
  next noisy =>
    refine ⟨_, false, run_bind_of_ok (run_showLine _ _), ?_⟩
    have reported : session.state.lastError ≠ [] := by simpa using noisy
    simp [reported]
  next silent =>
    have quiet : session.state.lastError = [] := by simpa using silent
    obtain ⟨printed, shown⟩ := run_showLines console session.state.diagnostics
      ⟨session, shot.printed, shot.code⟩
    rw [run_bind_of_ok shown, Session.Command.hasFindings]
    cases harmful : session.state.hasErrors with
    | true => exact ⟨printed, false, rfl, by simp⟩
    | false => exact ⟨_, true, run_showLine _ _, by simp [quiet]⟩

/-! ### Evaluations -/

theorem carried_eval (expressions : List OptionValue) (outType : Option OptionValue)
    (shot : OneShot) :
    Carried
      (.evaluate (.array (expressions.map expressionValue)) (outTypeValue outType)) shot
      ((eval console expressions outType).run shot) := by
  generalize isCommand : Session.Command.evaluate (.array (expressions.map expressionValue))
    (outTypeValue outType) = command
  have performed : command.perform.run shot.session =
      ((Session.evaluate (.array (expressions.map expressionValue)) (outTypeValue outType) >>=
        fun _ => pure ()).run shot.session) := by
    rw [← isCommand]
    rfl
  rcases ended : (Session.evaluate (.array (expressions.map expressionValue))
    (outTypeValue outType)).run shot.session with ⟨failure | file, session⟩
  · rw [run_bind_of_error ended] at performed
    have own : command.after shot.session = session := congrArg Prod.snd performed
    rw [eval, run_bind_of_error (run_onSession ended), ← own]
    exact .ended (congrArg Prod.fst performed)
  · rw [run_bind_of_ok ended] at performed
    have own : command.after shot.session = session := congrArg Prod.snd performed
    have isGood : file.isSome = true ↔ session.state.lastError = [] ∧
      command.hasFindings session = false := by
      rw [← isCommand, Session.Command.hasFindings, and_iff_left rfl]
      exact Session.isSome_iff_of_run_evaluate ended
    rw [← own] at isGood
    have carried := fun printed =>
      Carried.of_finished printed (congrArg Prod.fst performed) isGood
    rw [eval, run_bind_of_ok (run_onSession ended), run_bind_of_ok (run_look _ _), ← own]
    cases file with
    | none => exact carried _
    | some _ => exact carried _

/-! ### Several commands -/

/-- The ways in which a step ends that carries out commands one after the other: one of them finds
the `cue` program missing; or all of them have their turn, and the run goes on, as a failure unless
each of them has succeeded. -/
inductive Ran (commands : List Session.Command) (shot : OneShot) :
    Except Failure Unit × OneShot → Prop
  | stopped {failure : Failure} {printed : Text} {code : Nat}
      (isMissing : failure.isCueMissing = true)
      (missed : ∃ turn ∈ course commands shot.session, turn.missesCue = true) :
      Ran commands shot (.error failure, ⟨afterCourse commands shot.session, printed, code⟩)
  | succeeded {printed : Text}
      (found : ∀ turn ∈ course commands shot.session, turn.missesCue = false)
      (succeed : ∀ turn ∈ course commands shot.session, turn.Succeeds) :
      Ran commands shot (.ok (), ⟨afterCourse commands shot.session, printed, shot.code⟩)
  | failed {printed : Text}
      (found : ∀ turn ∈ course commands shot.session, turn.missesCue = false)
      (fails : ∃ turn ∈ course commands shot.session, ¬turn.Succeeds) :
      Ran commands shot (.ok (), ⟨afterCourse commands shot.session, printed, 1⟩)

/-- A step that carries out commands one after the other, for sessions on a file on hosts on which
no process is interrupted. -/
def Performs (file : Text) (step : Attempt OneShot Unit) (commands : List Session.Command) : Prop :=
  ∀ shot, shot.session.host.Calm → shot.session.source = file → Ran commands shot (step.run shot)

theorem performs_nothing (file : Text) : Performs file (pure ()) [] := by
  intro shot _ _
  change Ran [] shot (.ok (), ⟨afterCourse [] shot.session, shot.printed, shot.code⟩)
  refine .succeeded ?_ ?_
  · rintro turn ⟨⟩
  · rintro turn ⟨⟩

/-- Commands that are carried out after one that has been found do not change its success. -/
theorem Ran.after {command : Session.Command} {later : List Session.Command} {shot : OneShot}
    {printed : Text} {code : Nat} {ended : Except Failure Unit × OneShot}
    (found : command.missesCue shot.session = false)
    (ran : Ran later ⟨command.after shot.session, printed, code⟩ ended)
    (judged : command.Succeeds shot.session ∧ code = shot.code ∨
      ¬command.Succeeds shot.session ∧ code = 1) :
    Ran (command :: later) shot ended := by
  have turns : course (command :: later) shot.session =
      ⟨command, shot.session⟩ :: course later (command.after shot.session) := course_of_found found
  have last : afterCourse (command :: later) shot.session =
      afterCourse later (command.after shot.session) := afterCourse_of_found found
  cases ran with
  | @stopped failure printed code isMissing missed =>
      obtain ⟨turn, member, missing⟩ := missed
      rw [← last]
      refine .stopped isMissing ⟨turn, ?_, missing⟩
      rw [turns]
      exact List.mem_cons_of_mem _ member
  | @succeeded printed foundLater succeedLater =>
      have foundAll : ∀ turn ∈ course (command :: later) shot.session, turn.missesCue = false := by
        rw [turns, List.forall_mem_cons]
        exact ⟨found, foundLater⟩
      rw [← last]
      -- The commands after this one have kept the code that it left.
      rcases judged with ⟨succeeds, rfl⟩ | ⟨fails, rfl⟩
      · refine .succeeded foundAll ?_
        rw [turns, List.forall_mem_cons]
        exact ⟨succeeds, succeedLater⟩
      · refine .failed foundAll ⟨⟨command, shot.session⟩, ?_, fails⟩
        rw [turns]
        exact List.mem_cons_self
  | @failed printed foundLater failsLater =>
      -- The code is one whatever this command has left.
      obtain ⟨turn, member, fails⟩ := failsLater
      rw [← last]
      refine .failed ?_ ⟨turn, ?_, fails⟩
      · rw [turns, List.forall_mem_cons]
        exact ⟨found, foundLater⟩
      · rw [turns]
        exact List.mem_cons_of_mem _ member

/-- What comes after a command is carried out from the session that the command leaves, and cannot
make up for its failure. -/
theorem ran_cons {step next : Attempt OneShot Unit} {command : Session.Command}
    {later : List Session.Command} {shot : OneShot} (calm : shot.session.host.Calm)
    (carried : Carried command shot (step.run shot))
    (rest : Performs shot.session.source next later) :
    Ran (command :: later) shot ((step >>= fun _ => next).run shot) := by
  have calmLater : (command.after shot.session).host.Calm := Session.calm_after command calm
  have sourceLater : (command.after shot.session).source = shot.session.source :=
    Session.source_after command shot.session
  rw [run_bind]
  generalize step.run shot = ended at carried
  cases carried with
  | @ended failure escaped =>
      have isMissing := Session.isCueMissing_of_command_error calm escaped
      have missing : command.missesCue shot.session = true := by
        rw [Session.Command.missesCue, escaped]
        exact isMissing
      rw [← afterCourse_of_missing missing]
      refine .stopped isMissing ⟨⟨command, shot.session⟩, ?_, missing⟩
      rw [course_of_missing missing]
      exact List.mem_cons_self
  | @succeeded printed finished succeeds =>
      have found : command.missesCue shot.session = false := by
        rw [Session.Command.missesCue, finished]
      exact (rest _ calmLater sourceLater).after found (.inl ⟨succeeds, rfl⟩)
  | @failed printed finished fails =>
      have found : command.missesCue shot.session = false := by
        rw [Session.Command.missesCue, finished]
      exact (rest _ calmLater sourceLater).after found (.inr ⟨fails, rfl⟩)

/-- A command that is carried out only if a condition holds. -/
theorem ran_optional {condition : Prop} [Decidable condition] {step : Attempt OneShot Unit}
    {next : Unit → Attempt OneShot Unit} {command : Session.Command}
    {later : List Session.Command} {shot : OneShot} (calm : shot.session.host.Calm)
    (carried : condition → Carried command shot (step.run shot))
    (rest : Performs shot.session.source (next ()) later) :
    Ran ((if condition then [command] else []) ++ later) shot
      ((if condition then step >>= next else next ()).run shot) := by
  by_cases asked : condition
  · rw [if_pos asked, if_pos asked]
    exact ran_cons calm (carried asked) rest
  · rw [if_neg asked, if_neg asked]
    exact rest shot calm rfl

/-- A last command that is carried out only if a condition holds. -/
theorem ran_optional_last {condition : Prop} [Decidable condition] {step : Attempt OneShot Unit}
    {command : Session.Command} {shot : OneShot} (calm : shot.session.host.Calm)
    (carried : condition → Carried command shot (step.run shot)) :
    Ran (if condition then [command] else []) shot
      ((if condition then step else pure ()).run shot) := by
  have alone : (step >>= fun _ => pure ()) = step := by
    funext shot
    change (step >>= fun _ => pure ()).run shot = step.run shot
    rw [run_bind]
    rcases step.run shot with ⟨failure | _, reached⟩ <;> rfl
  have ran : Ran ((if condition then [command] else []) ++ []) shot
      ((if condition then step >>= fun _ => pure () else pure ()).run shot) :=
    ran_optional calm carried (performs_nothing _)
  rwa [alone, List.append_nil] at ran

/-! ### The requested commands -/

/-- The commands that are requested, in the order in which they are carried out. -/
def requested (options : Options) : List Session.Command :=
  (if options.fmt then [.format] else []) ++
    ((if options.lint then [.lint] else []) ++
      if options.eval || !options.expressions.isEmpty then
        [.evaluate (.array (options.expressions.map expressionValue)) (outTypeValue options.out)]
      else [])

/-- The steps that come after the file has been read. -/
def carryOut (console : Console) (options : Options) : Attempt OneShot Unit := do
  if options.fmt then format console
  if options.lint then lint console
  if options.eval || !options.expressions.isEmpty then
    eval console options.expressions options.out

theorem ran_carryOut {options : Options} {shot : OneShot} (calm : shot.session.host.Calm)
    (sayable : options.fmt = true → Session.Command.format.Succeeds shot.session →
      Sayable console shot.session.source) :
    Ran (requested options) shot ((carryOut console options).run shot) := by
  unfold carryOut requested
  refine ran_optional calm (fun asked => carried_format (sayable asked)) fun shot calm _ => ?_
  refine ran_optional calm (fun _ => carried_lint shot) fun shot calm _ => ?_
  exact ran_optional_last calm fun _ => carried_eval options.expressions options.out shot

/-- A file that can be read is read, and then the requested commands are carried out. -/
theorem run_commands {options : Options} {shot : OneShot} {text : Text}
    (readable : shot.session.host.readText shot.session.source = .ok text) :
    (commands console options).run shot =
      (carryOut console options).run { shot with session := shot.session.withSource text } := by
  have read : (Attempt.require fun session : Session => session.host.readText session.source).run
      shot.session = (.ok text, shot.session) := congrArg (·, shot.session) readable
  have reloaded : (onSession Session.reloadSource).run shot =
      (.ok (), { shot with session := shot.session.withSource text }) := by
    refine run_onSession ?_
    rw [Session.reloadSource, run_bind_of_ok read]
    rfl
  exact run_bind_of_ok reloaded

theorem spawned_cleanup (shot : OneShot) :
    (cleanup.run shot).2.session.host.spawned = shot.session.host.spawned := by
  have kept : (shot.session.scratch.cleanup.run shot.session.host).2.processes =
      shot.session.host.processes := shot.session.scratch.quiet_cleanup.kept shot.session.host
  exact congrArg Prod.fst kept

/-- A run of the requested commands does not fail. Its code is zero exactly if no command has found
the `cue` program missing and every command that had its turn has succeeded. -/
theorem exists_of_run {options : Options} {session : Session} {text : Text}
    (calm : session.host.Calm) (readable : session.host.readText session.source = .ok text)
    (sayable : options.fmt = true → Session.Command.format.Succeeds (session.withSource text) →
      Sayable console session.source) :
    ∃ shot started, (run console options).run ⟨session, [], 0⟩ = (.ok (), shot) ∧
      Account (requested options) (session.withSource text) shot.code started ∧
      shot.session.host.spawned = session.host.spawned ++ started := by
  have ran : Ran (requested options) ⟨session.withSource text, [], 0⟩
      ((carryOut console options).run ⟨session.withSource text, [], 0⟩) := ran_carryOut calm sayable
  have begun : (commands console options).run ⟨session, [], 0⟩ =
      (carryOut console options).run ⟨session.withSource text, [], 0⟩ := run_commands readable
  rw [run, run_ensuring, commandsOrComplaint, run_rescue, begun]
  generalize (carryOut console options).run ⟨session.withSource text, [], 0⟩ = ended at ran
  cases ran with
  | @stopped failure printed code isMissing missed =>
      obtain ⟨turn, member, missing⟩ := missed
      obtain ⟨started, account, spawned⟩ := exists_account (Nat.le_refl 1)
        ⟨fun zero => absurd zero Nat.one_ne_zero, fun good =>
          absurd missing (ne_true_of_eq_false (good.1 turn member))⟩
      dsimp only
      rw [if_pos isMissing]
      exact ⟨_, started, rfl, account, (spawned_cleanup _).trans spawned⟩
  | @succeeded printed found succeed =>
      obtain ⟨started, account, spawned⟩ := exists_account (Nat.zero_le 1)
        ⟨fun _ => ⟨found, succeed⟩, fun _ => rfl⟩
      exact ⟨_, started, rfl, account, (spawned_cleanup _).trans spawned⟩
  | @failed printed found fails =>
      obtain ⟨turn, member, fails⟩ := fails
      obtain ⟨started, account, spawned⟩ := exists_account (Nat.le_refl 1)
        ⟨fun zero => absurd zero Nat.one_ne_zero, fun good => absurd (good.2 turn member) fails⟩
      exact ⟨_, started, rfl, account, (spawned_cleanup _).trans spawned⟩

end CueWatch.CommandLine.OneShot
