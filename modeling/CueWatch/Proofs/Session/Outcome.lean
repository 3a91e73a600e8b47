import CueWatch.Proofs.Session.Launch
import CueWatch.Proofs.Session.Saved

/-!
Contract: every end of a command is told of, once, and told as what it is.

Owns:
- `Command.Completes` and `Command.StopsWith`, which tell by its stages whether the work of a
  command is done, and which failure keeps it from being done; exactly one of them holds, for one
  failure;
- `Complaint`, what the session says about a failure that is reported;
- `CommandEnd`, the ways in which a command ends: its work is done, or a failure is reported, each
  with one notice, or a failure escapes without one;
- that the start, new flags and a new choice about lints on save give one notice when they end well.

Does not own: saves, which deal with failures of their own (`Proofs.Session.Saved`).
-/

namespace CueWatch.Session

open Attempt

/-! ### The stages of commands -/

/-- The search for the module root of the file, after a lint has been noted. -/
def searchedRoot (session : Session) : Except Failure Text × Host :=
  (ModuleRoot.ofFile session.settings session.source session.workspaceFolder).run
    session.notedLint.host

/-- The module root is found, and the process of a lint runs in it. -/
def Vets (session : Session) (result : ProcessResult) (ran : Host) : Prop :=
  ∃ root found, session.searchedRoot = (.ok root, found) ∧
    (session.cue.vet session.source session.lintFlags (some root)).run found = (.ok result, ran)

/-- The work of a lint is done: its process runs, the report can be read, and there is a place to
publish the findings under. -/
def LintCompletes (session : Session) : Prop :=
  ∃ result ran diagnostics key, session.Vets result ran ∧
    Report.parse result.stderr = .ok diagnostics ∧ ran.canonical session.source = .ok key

/-- The failures of the stages of a lint, each after the stages before it have gone well. -/
inductive LintStops (session : Session) (failure : Failure) : Prop
  | unrooted (lost : session.searchedRoot.1 = .error failure)
  | unvetted {root : Text} {found : Host} (located : session.searchedRoot = (.ok root, found))
      (refused : ((session.cue.vet session.source session.lintFlags (some root)).run found).1 =
        .error failure)
  | unreadable {result : ProcessResult} {ran : Host} (vets : session.Vets result ran)
      (unread : Report.parse result.stderr = .error failure)
  | unplaced {result : ProcessResult} {ran : Host} {diagnostics : List Diagnostic}
      (vets : session.Vets result ran) (read : Report.parse result.stderr = .ok diagnostics)
      (nowhere : ran.canonical session.source = .error failure)

/-- The process of an evaluation of some expressions. -/
def evaluating (session : Session) (items : List Settings.Value) (outType : Settings.Value)
    (directory : Text) : Except Failure Text × Host :=
  (session.cue.eval session.source (.array items) (chosenOutType outType session.state)
    (some directory)).run session.host

/-- There are a directory and expressions, and the process of an evaluation prints its output. -/
def Evaluates (expressions outType : Settings.Value) (session : Session) (output : Text)
    (ran : Host) : Prop :=
  ∃ directory items, session.evalDirectory = .ok directory ∧ expressions.items = .ok items ∧
    session.evaluating items outType directory = (.ok output, ran)

/-- The failures of the stages of an evaluation, each after the stages before it have gone well. -/
inductive EvaluationStops (expressions outType : Settings.Value) (session : Session)
    (failure : Failure) : Prop
  | undirected (nowhere : session.evalDirectory = .error failure)
  | unlisted {directory : Text} (located : session.evalDirectory = .ok directory)
      (shapeless : expressions.items = .error failure)
  | unevaluated {directory : Text} {items : List Settings.Value}
      (located : session.evalDirectory = .ok directory) (listed : expressions.items = .ok items)
      (refused : (session.evaluating items outType directory).1 = .error failure)
  | unallocated {output : Text} {ran : Host}
      (evaluates : Evaluates expressions outType session output ran)
      (refused : ((session.scratch.allocate "eval").run ran).1 = .error failure)
  | unwritten {output place : Text} {ran made : Host} {format : OutType}
      (evaluates : Evaluates expressions outType session output ran)
      (allocated : (session.scratch.allocate "eval").run ran = (.ok place, made))
      (named : OutType.ofValue (chosenOutType outType session.state) = .ok format)
      (refused : ((Host.writeText (evalFileIn place format) output).run made).1 = .error failure)

/-- The process of a format. -/
def formatting (session : Session) : Except Failure ProcessResult × Host :=
  (session.cue.fmt session.source (some (Spelling.directory session.source))).run session.host

/-- The failures of the stages of a format: the process, and reading the file again. -/
inductive FormatStops (session : Session) (failure : Failure) : Prop
  | unformatted (refused : session.formatting.1 = .error failure)
  | unread {result : ProcessResult} {ran : Host}
      (formatted : session.formatting = (.ok result, ran))
      (lost : ran.readText session.source = .error failure)

namespace Command

/-- The work of a command is done. What a lint finds does not count. -/
def Completes (session : Session) : Command → Prop
  | .lint => LintCompletes session
  | .evaluate expressions outType => EvaluationSucceeds expressions outType session
  | .format => FormatSucceeds session

/-- A failure keeps the work of a command from being done. -/
def StopsWith (session : Session) : Command → Failure → Prop
  | .lint => LintStops session
  | .evaluate expressions outType => EvaluationStops expressions outType session
  | .format => FormatStops session

/-- What the messages about failures of a command call it. -/
def action : Command → Action
  | .lint => .lint
  | .evaluate _ _ => .evaluate
  | .format => .format

end Command

/-! ### What the session says -/

/-- What the session says about a failure: guidance if there is no module root, and only then; which
directory cannot be read; and else what the failure itself says. -/
structure Complaint (action : Action) (failure : Failure) (message : Text) : Prop where
  speaks : message ≠ []
  guides : message = moduleRootGuidance ↔ ∃ boundary start, failure = .rootNotFound boundary start
  points : ∀ path cause, failure = .unreadableDirectory path cause →
    message = "Failed to " ++ action.name ++ " file, cannot read " ++ path ++ ": " ++ cause.message
  quotes : (∀ boundary start, failure ≠ .rootNotFound boundary start) →
    (∀ path cause, failure ≠ .unreadableDirectory path cause) →
    message = "Failed to " ++ action.name ++ " file, error: " ++ failure.message

/-- Guidance is told from every other message by its first letter. -/
theorem failed_ne_guidance (rest : Text) : ("Failed to " : Text) ++ rest ≠ moduleRootGuidance := by
  intro same
  have first : some 'F' = some 'N' := congrArg List.head? same
  cases first

theorem complaint_failureMessage (action : Action) (failure : Failure) :
    Complaint action failure (failureMessage action failure) where
  speaks := failureMessage_ne_nil action failure
  guides := by
    unfold failureMessage
    split
    next boundary start => simp
    next path cause =>
      simp only [List.append_assoc]
      exact ⟨fun same => absurd same (failed_ne_guidance _), nofun⟩
    next rooted _ =>
      simp only [List.append_assoc]
      refine ⟨fun same => absurd same (failed_ne_guidance _), ?_⟩
      rintro ⟨boundary, start, rfl⟩
      exact absurd rfl (rooted boundary start)
  points := by
    rintro path cause rfl
    rfl
  quotes := by
    intro rooted readable
    unfold failureMessage
    split
    next boundary start => exact absurd rfl (rooted boundary start)
    next path cause => exact absurd rfl (readable path cause)
    next => rfl

/-! ### How commands end -/

/-- The ways in which a command ends. When its work is done there is one notice and no error; a
failure is reported with one notice and with a message that is the last error as well; and only
that `cue` is missing, or an interruption, escapes, without a notice. -/
inductive CommandEnd {α : Type} (command : Command) (session : Session) :
    Except Failure α × Session → Prop
  | completed {value : α} {later : Session} (completes : command.Completes session)
      (only : ∀ failure, ¬ command.StopsWith session failure) (once : NoticedOnce session later)
      (silent : later.state.lastError = []) : CommandEnd command session (.ok value, later)
  | reported {failure : Failure} {value : α} {later : Session}
      (stops : command.StopsWith session failure)
      (only : ∀ other, command.StopsWith session other → other = failure)
      (undone : ¬ command.Completes session) (ordinary : escapes failure = false)
      (once : NoticedOnce session later) (same : later.state.lastError = later.state.statusMessage)
      (complaint : Complaint command.action failure later.state.statusMessage) :
      CommandEnd command session (.ok value, later)
  | escaped {failure : Failure} {later : Session} (stops : command.StopsWith session failure)
      (only : ∀ other, command.StopsWith session other → other = failure)
      (undone : ¬ command.Completes session)
      (escaping : failure.isCueMissing = true ∨ failure.isInterrupt = true)
      (untold : later.notices = session.notices) (silent : later.state.lastError = []) :
      CommandEnd command session (.error failure, later)

/-- A request that gives one notice when it ends well. -/
inductive AnnouncedEnd (session : Session) : Except Failure Unit × Session → Prop
  | announced {later : Session} (once : NoticedOnce session later) :
      AnnouncedEnd session (.ok (), later)
  | stopped {failure : Failure} {later : Session} : AnnouncedEnd session (.error failure, later)

/-! ### The stages and the outcome of the work -/

/-- The outcome of a piece of work, told by whether it is completed and by what stops it. -/
structure Staged {α : Type} (completes : Prop) (stops : Failure → Prop)
    (outcome : Except Failure α) : Prop where
  ends : completes ∨ ∃ failure, stops failure
  completed : completes → ∃ value, outcome = .ok value
  stopped : ∀ failure, stops failure → outcome = .error failure

section Lint

variable {session : Session} {failure : Failure}

theorem run_vet_of_lost (lost : session.searchedRoot.1 = .error failure) :
    (vet.run session.begun).1 = .error failure := by
  have searched : ((onHost (ModuleRoot.ofFile session.begun.settings session.begun.source
      session.begun.workspaceFolder)).run session.begun).1 = .error failure := lost
  refine fst_run_bind_of_error ?_
  rw [findModuleRoot, run_bind_of_ok (run_look id _)]
  exact fst_run_bind_of_error searched

theorem run_vet_of_refused {root : Text} {found : Host}
    (located : session.searchedRoot = (.ok root, found))
    (refused : ((session.cue.vet session.source session.lintFlags (some root)).run found).1 =
      .error failure) : (vet.run session.begun).1 = .error failure := by
  have rooted : findModuleRoot.run session.begun = (.ok root, _) := run_findModuleRoot_of_ok located
  rw [vet, run_bind_of_ok rooted, run_bind_of_ok (run_look id _)]
  exact fst_run_bind_of_error refused

/-- The process of a lint leaves its report to be digested, on the host that it leaves behind. -/
theorem Vets.run {result : ProcessResult} {ran : Host} (vets : session.Vets result ran) :
    ∃ vetted : Session, vetted.place = ran.canonical session.source ∧
      lintBody.run session.begun = (digest result.stderr).run vetted := by
  obtain ⟨root, found, located, isRun⟩ := vets
  have vetted : vet.run session.begun =
      (.ok result, session.begun.vetted root result.stderr ran) :=
    run_vet_eq_ok_iff.mpr ⟨root, found, ran, located, isRun, rfl⟩
  exact ⟨session.begun.vetted root result.stderr ran, rfl, run_bind_of_ok vetted⟩

theorem staged_lint (session : Session) :
    Staged (LintCompletes session) (LintStops session) (lintBody.run session.begun).1 where
  ends := by
    rcases searched : session.searchedRoot with ⟨failure | root, found⟩
    · exact .inr ⟨failure, .unrooted (congrArg Prod.fst searched)⟩
    rcases ran : (session.cue.vet session.source session.lintFlags (some root)).run found with
      ⟨failure | result, ended⟩
    · exact .inr ⟨failure, .unvetted searched (congrArg Prod.fst ran)⟩
    have vets : session.Vets result ended := ⟨root, found, searched, ran⟩
    cases read : Report.parse result.stderr with
    | error failure => exact .inr ⟨failure, .unreadable vets read⟩
    | ok diagnostics =>
        cases placed : ended.canonical session.source with
        | error failure => exact .inr ⟨failure, .unplaced vets read placed⟩
        | ok key => exact .inl ⟨result, ended, diagnostics, key, vets, read, placed⟩
  completed := by
    rintro ⟨result, ran, diagnostics, key, vets, read, placed⟩
    obtain ⟨vetted, here, lints⟩ := vets.run
    rw [lints, run_digest read (here.trans placed)]
    exact ⟨(), rfl⟩
  stopped := by
    intro failure stops
    cases stops with
    | unrooted lost => exact fst_run_bind_of_error (run_vet_of_lost lost)
    | unvetted located refused => exact fst_run_bind_of_error (run_vet_of_refused located refused)
    | unreadable vets unread =>
        obtain ⟨vetted, -, lints⟩ := vets.run
        rw [lints, run_digest_of_unreadable unread]
    | unplaced vets read nowhere =>
        obtain ⟨vetted, here, lints⟩ := vets.run
        rw [lints, run_digest_of_unplaced read (here.trans nowhere)]

end Lint

section Evaluation

variable {expressions outType : Settings.Value} {session : Session}

/-- The session at the beginning of an evaluation's or a format's work: the last error is
forgotten. -/
def cleared (session : Session) : Session :=
  { session with state := session.state.withError [] }

theorem run_evalDirectory {directory : Text} (located : session.evalDirectory = .ok directory) :
    (Attempt.require evalDirectory).run session.cleared = (.ok directory, session.cleared) :=
  congrArg (·, session.cleared) located

/-- When there are a directory and expressions, an evaluation goes on with its process. -/
theorem run_evaluateBody_of_listed {directory : Text} {items : List Settings.Value}
    (located : session.evalDirectory = .ok directory) (listed : expressions.items = .ok items) :
    (evaluateBody expressions (chosenOutType outType session.state)).run session.cleared =
      (onHost (session.cue.eval session.source (.array items)
          (chosenOutType outType session.state) (some directory)) >>=
        keepOutput session.scratch (chosenOutType outType session.state)).run session.cleared := by
  rw [evaluateBody, run_bind_of_ok (run_evalDirectory located), listed, ofExcept_bind_ok,
    run_bind_of_ok (run_look id _)]
  rfl

/-- An evaluation goes on with what its process has printed. -/
theorem Evaluates.run {output : Text} {ran : Host}
    (evaluates : Evaluates expressions outType session output ran) :
    (evaluateBody expressions (chosenOutType outType session.state)).run session.cleared =
      (keepOutput session.scratch (chosenOutType outType session.state) output).run
        { session.cleared with host := ran } := by
  obtain ⟨directory, items, located, listed, evaluated⟩ := evaluates
  rw [run_evaluateBody_of_listed located listed]
  exact run_bind_of_ok (run_onHost_of_ok evaluated)

theorem staged_evaluation (expressions outType : Settings.Value) (session : Session) :
    Staged (EvaluationSucceeds expressions outType session)
      (EvaluationStops expressions outType session)
      ((evaluateBody expressions (chosenOutType outType session.state)).run session.cleared).1 where
  ends := by
    cases located : session.evalDirectory with
    | error failure => exact .inr ⟨failure, .undirected located⟩
    | ok directory =>
    cases listed : expressions.items with
    | error failure => exact .inr ⟨failure, .unlisted located listed⟩
    | ok items =>
    rcases evaluated : session.evaluating items outType directory with ⟨failure | output, ran⟩
    · exact .inr ⟨failure, .unevaluated located listed (congrArg Prod.fst evaluated)⟩
    have evaluates : Evaluates expressions outType session output ran :=
      ⟨directory, items, located, listed, evaluated⟩
    -- What the process has printed was asked for in an output type.
    obtain ⟨format, result, isType, isRun, wentWell, rfl⟩ := run_eval_eq_ok_iff.mp evaluated
    have named : OutType.ofValue (chosenOutType outType session.state) = .ok format := by
      rw [OutType.ofValue, isType]
    rcases allocated : (session.scratch.allocate "eval").run ran with ⟨failure | place, made⟩
    · exact .inr ⟨failure, .unallocated evaluates (congrArg Prod.fst allocated)⟩
    cases wrote : ((Host.writeText (evalFileIn place format) result.stdout).run made).1 with
    | error failure => exact .inr ⟨failure, .unwritten evaluates allocated named wrote⟩
    | ok _ =>
        exact .inl ⟨directory, items, format, result, ran, place, made, located, listed, isType,
          isRun, wentWell, allocated, wrote⟩
  completed := fun succeeds =>
    (evaluationSucceeds_iff expressions outType session.cleared).mp succeeds
  stopped := by
    intro failure stops
    cases stops with
    | undirected nowhere => exact fst_run_bind_of_error nowhere
    | unlisted located shapeless =>
        rw [evaluateBody, run_bind_of_ok (run_evalDirectory located), shapeless]
        rfl
    | unevaluated located listed refused =>
        rw [run_evaluateBody_of_listed located listed]
        exact fst_run_bind_of_error refused
    | unallocated evaluates refused =>
        rw [evaluates.run]
        exact fst_run_bind_of_error refused
    | unwritten evaluates allocated named refused =>
        rw [evaluates.run, keepOutput, run_bind_of_ok (run_onHost_of_ok allocated), named,
          ofExcept_bind_ok]
        exact fst_run_bind_of_error refused

end Evaluation

theorem staged_format (session : Session) :
    Staged (FormatSucceeds session) (FormatStops session) (formatBody.run session.cleared).1 where
  ends := by
    rcases formatted : session.formatting with ⟨failure | result, ran⟩
    · exact .inr ⟨failure, .unformatted (congrArg Prod.fst formatted)⟩
    cases read : ran.readText session.source with
    | error failure => exact .inr ⟨failure, .unread formatted read⟩
    | ok text =>
        obtain ⟨isRun, wentWell⟩ := run_runChecked_eq_ok_iff.mp formatted
        exact .inl ⟨result, ran, text, isRun, wentWell, read⟩
  completed := fun succeeds => ⟨(), (formatSucceeds_iff session.cleared).mp succeeds⟩
  stopped := by
    intro failure stops
    cases stops with
    | unformatted refused =>
        rw [formatBody, run_bind_of_ok (run_look id _)]
        exact fst_run_bind_of_error refused
    | @unread result ran formatted lost =>
        have isRun : (onHost (session.cleared.cue.fmt session.cleared.source
            (some (Spelling.directory session.cleared.source)))).run session.cleared =
              (.ok result, { session.cleared with host := ran }) := run_onHost_of_ok formatted
        rw [formatBody, run_bind_of_ok (run_look id _), id, run_bind_of_ok isRun]
        exact fst_run_bind_of_error (congrArg Prod.fst (run_reloadSource_of_error lost))

/-! ### The ends of commands -/

section Ends

variable {α : Type} {completes : Prop} {stops : Failure → Prop} {session : Session}

theorem Staged.completes_of_ok {value : α} (staged : Staged completes stops (.ok value)) :
    completes ∧ ∀ failure, ¬ stops failure := by
  have unstopped : ∀ failure, ¬ stops failure :=
    fun failure stopped => nomatch staged.stopped failure stopped
  exact ⟨staged.ends.resolve_right fun ⟨failure, stopped⟩ => unstopped failure stopped, unstopped⟩

theorem Staged.stops_of_error {failure : Failure}
    (staged : Staged (α := α) completes stops (.error failure)) :
    stops failure ∧ (∀ other, stops other → other = failure) ∧ ¬ completes := by
  have only : ∀ other, stops other → other = failure :=
    fun other stopped => (Except.error.inj (staged.stopped other stopped)).symm
  have undone : ¬ completes := by
    intro done
    obtain ⟨value, succeeded⟩ := staged.completed done
    cases succeeded
  obtain ⟨other, stopped⟩ := staged.ends.resolve_left undone
  obtain rfl := only other stopped
  exact ⟨stopped, only, undone⟩

/-- A command whose work is told by its stages, and neither tells the listener nor touches the last
error, ends in one of the ways. -/
theorem commandEnd_perform {command : Command} {otherwise : α} {body : Attempt Session α}
    (moment : Session)
    (staged : Staged (command.Completes session) (command.StopsWith session)
      (body.run moment.cleared).1)
    (heard : Keeps tidings body) (quiet : Keeps lastError body)
    (untold : moment.tidings = session.tidings) :
    CommandEnd command session ((perform command.action otherwise body).run moment) := by
  have sameTidings := (heard moment.cleared).trans untold
  have silent := quiet moment.cleared
  rcases ran : body.run moment.cleared with ⟨failure | value, reached⟩
  · rw [ran] at staged sameTidings silent
    obtain ⟨stopped, only, undone⟩ := staged.stops_of_error
    rw [run_perform_of_error ran]
    by_cases escaping : escapes failure = true
    · rw [if_pos escaping]
      rw [escapes, Bool.or_eq_true] at escaping
      exact .escaped stopped only undone escaping (congrArg Prod.fst sameTidings) silent
    · rw [if_neg escaping]
      exact .reported stopped only undone (Bool.not_eq_true _ ▸ escaping)
        (noticedOnce_noticed sameTidings) rfl (complaint_failureMessage command.action failure)
  · rw [ran] at staged sameTidings silent
    obtain ⟨done, unstopped⟩ := staged.completes_of_ok
    rw [run_perform_of_ok ran]
    exact .completed done unstopped (noticedOnce_noticed sameTidings) silent

theorem commandEnd_lint (session : Session) : CommandEnd .lint session (lint.run session) :=
  commandEnd_perform session.notedLint (staged_lint session) keeps_tidings_lintBody quiet_lintBody
    rfl

theorem commandEnd_evaluate (expressions outType : Settings.Value) (session : Session) :
    CommandEnd (.evaluate expressions outType) session
      ((evaluate expressions outType).run session) :=
  commandEnd_perform session (staged_evaluation expressions outType session)
    (keeps_evaluateBody (fun _ _ => rfl) (fun _ _ _ _ _ => rfl) _ _)
    (quiet_evaluateBody _ _) rfl

theorem commandEnd_format (session : Session) : CommandEnd .format session (format.run session) :=
  commandEnd_perform session (staged_format session)
    (keeps_formatBody (fun _ _ => rfl) fun _ _ _ => rfl) quiet_formatBody rfl

end Ends

/-! ### Requests that give a notice -/

theorem AnnouncedEnd.of_tidings {session moment : Session} {ended : Except Failure Unit × Session}
    (same : moment.tidings = session.tidings) (announced : AnnouncedEnd moment ended) :
    AnnouncedEnd session ended := by
  have notices : moment.notices = session.notices := congrArg Prod.fst same
  have hasListener : moment.hasListener = session.hasListener := congrArg Prod.snd same
  cases announced with
  | announced once =>
      rw [NoticedOnce, notices, hasListener] at once
      exact .announced once
  | stopped => exact .stopped

/-- What goes before a notice does not count if it gives none. -/
theorem AnnouncedEnd.after {α : Type} {step : Attempt Session α} {next : α → Attempt Session Unit}
    (heard : Keeps tidings step)
    (later : ∀ value session, AnnouncedEnd session ((next value).run session)) (session : Session) :
    AnnouncedEnd session ((step >>= next).run session) := by
  have same := heard session
  rcases ran : step.run session with ⟨failure | value, reached⟩
  · rw [run_bind_of_error ran]
    exact .stopped
  · rw [ran] at same
    rw [run_bind_of_ok ran]
    exact (later value reached).of_tidings same

/-- Nor does what comes after it. -/
theorem AnnouncedEnd.before {step : Attempt Session Unit} {next : Unit → Attempt Session Unit}
    {session : Session} (announced : AnnouncedEnd session (step.run session))
    (heard : Keeps tidings (next ())) : AnnouncedEnd session ((step >>= next).run session) := by
  rcases ran : step.run session with ⟨failure | _, reached⟩
  · rw [run_bind_of_error ran]
    exact .stopped
  · rw [ran] at announced
    rw [run_bind_of_ok ran]
    have same := heard reached
    rcases ended : (next ()).run reached with ⟨failure | _, later⟩
    · exact .stopped
    · rw [ended] at same
      have notices : later.notices = reached.notices := congrArg Prod.fst same
      cases announced with
      | announced once => exact .announced (notices.trans once)

theorem announced_notify (session : Session) : AnnouncedEnd session (notify.run session) :=
  .announced (noticedOnce_noticed rfl)

theorem announced_lint (session : Session) : AnnouncedEnd session (lint.run session) := by
  have ends := commandEnd_lint session
  generalize lint.run session = ended at ends ⊢
  cases ends with
  | completed _ _ once _ => exact .announced once
  | reported _ _ _ _ once _ _ => exact .announced once
  | escaped => exact .stopped

theorem keeps_tidings_reloadSource : Keeps tidings reloadSource :=
  Keeps.bind (Keeps.require _) fun _ => keeps_updateState fun _ => rfl

theorem announced_start (session : Session) :
    AnnouncedEnd session (Session.start.run session) := by
  refine AnnouncedEnd.before ?_ ?_
  · refine AnnouncedEnd.after keeps_tidings_reloadSource (fun _ session => ?_) session
    refine AnnouncedEnd.after (Keeps.look _) (fun onSave session => ?_) session
    split
    · exact announced_lint session
    · exact announced_notify session
  · refine Keeps.bind (Keeps.look _) fun source => ?_
    refine Keeps.bind (Keeps.require _) fun registration => ?_
    refine Keeps.bind (Keeps.change fun _ => rfl) fun _ => ?_
    refine Keeps.bind (Keeps.require _) fun launched => ?_
    refine Keeps.bind (Keeps.change fun _ => rfl) fun _ => ?_
    exact keeps_onHost (fun _ _ => rfl) _

theorem keeps_tidings_changeSetting (key : Text) (value : Settings.Value) :
    Keeps tidings (changeSetting key value) :=
  keeps_changeSetting (fun _ _ => rfl) (fun _ _ => rfl) key value

theorem announced_setFlags (flags : Settings.Value) (session : Session) :
    AnnouncedEnd session ((setFlags flags).run session) := by
  refine AnnouncedEnd.after ?_ (fun _ => announced_lint) session
  refine Keeps.bind (Keeps.ofExcept _) fun items => ?_
  refine Keeps.bind (Keeps.change fun _ => rfl) fun _ => ?_
  refine Keeps.bind (keeps_updateState fun _ => rfl) fun _ => ?_
  exact Keeps.bind (keeps_tidings_changeSetting _ _) fun _ => Keeps.change fun _ => rfl

theorem announced_setLintOnSave (enabled : Settings.Value) (session : Session) :
    AnnouncedEnd session ((setLintOnSave enabled).run session) := by
  have withdraws : Keeps tidings withdrawAll := Keeps.change fun _ => rfl
  refine AnnouncedEnd.after (keeps_tidings_changeSetting _ _) (fun _ session => ?_) session
  refine AnnouncedEnd.after withdraws (fun _ session => ?_) session
  exact AnnouncedEnd.after (keeps_updateState fun _ => rfl) (fun _ => announced_notify) session

/-- Every command ends in one of its ways, and the start, new flags and a new choice about lints on
save give one notice when they end well. -/
theorem every_end_is_told (session : Session) :
    CommandEnd .lint session (lint.run session) ∧
    (∀ expressions outType, CommandEnd (.evaluate expressions outType) session
      ((evaluate expressions outType).run session)) ∧
    CommandEnd .format session (format.run session) ∧
    AnnouncedEnd session (Session.start.run session) ∧
    (∀ flags, AnnouncedEnd session ((setFlags flags).run session)) ∧
    ∀ enabled, AnnouncedEnd session ((setLintOnSave enabled).run session) :=
  ⟨commandEnd_lint session,
    fun expressions outType => commandEnd_evaluate expressions outType session,
    commandEnd_format session, announced_start session,
    fun flags => announced_setFlags flags session,
    fun enabled => announced_setLintOnSave enabled session⟩

end CueWatch.Session
