import CueWatch.Proofs.Host.Extension
import CueWatch.Proofs.ModuleRoot.Containment
import CueWatch.Proofs.Session.History
import CueWatch.Proofs.Session.Success

/-!
Contract: the process that a request starts, told before it is made.

Owns:
- `Request.command?`, the processes of requests;
- what lints, evaluations and formats do to the host with their processes, and `keepOutput`, with
  which an evaluation goes on;
- that a request starts the process that is told from it, and no other.

Does not own: the processes of the `cue` program (`Proofs.Cue.Command`), what is required of those of
lints (`Proofs.Session.Vetting`), and whether a request succeeds (`Proofs.Session.Success`).
-/

namespace CueWatch

open Attempt

/-! ### Boundaries -/

section

variable {host other : Host}

theorem Host.workingText_congr (workingDirectory : other.workingDirectory = host.workingDirectory) :
    other.workingText = host.workingText := by
  rw [workingText, workingText, workingPath, workingPath, workingDirectory]

theorem Host.home_congr (environment : other.environment = host.environment)
    (account : other.accountHome = host.accountHome) : other.home = host.home := by
  rw [home, home, homeText, homeText, homeTold, homeTold, environmentValue?, environmentValue?,
    environment, account]

/-- A template speaks of nothing on the host but the environment, the user's account and the working
directory. -/
theorem Settings.Template.expand_congr (environment : other.environment = host.environment)
    (account : other.accountHome = host.accountHome)
    (workingDirectory : other.workingDirectory = host.workingDirectory) (template : Text)
    (workspaceFolder : Option Text) :
    expand template workspaceFolder other = expand template workspaceFolder host := by
  have value : ∀ segment : Segment,
      segment.value workspaceFolder other = segment.value workspaceFolder host := by
    rintro (c | name)
    · rfl
    · rw [Segment.value, Segment.value]
      cases Variable.ofName name with
      | userHome => rw [Variable.value, Variable.value, Host.home_congr environment account]
      | workingDirectory =>
          rw [Variable.value, Variable.value, Host.workingText_congr workingDirectory]
      | environment name =>
          rw [Variable.value, Variable.value, Host.environmentValue?, Host.environmentValue?,
            environment]
      | _ => rfl
  unfold expand
  induction Segment.ofTemplate template with
  | nil => rfl
  | cons segment rest inductionHypothesis => rw [fill, fill, value, inductionHypothesis]

theorem ModuleRoot.boundary_congr (host other : Host)
    (environment : other.environment = host.environment)
    (account : other.accountHome = host.accountHome)
    (workingDirectory : other.workingDirectory = host.workingDirectory)
    (settings : Settings.Store) (workspaceFolder : Option Text) :
    boundary settings workspaceFolder other = boundary settings workspaceFolder host := by
  unfold boundary expandTemplate
  cases settings.moduleRoot with
  | text template =>
      dsimp only
      rw [Settings.Template.expand_congr environment account workingDirectory,
        Host.workingText_congr workingDirectory]
  | _ => rfl

end

namespace Session

/-! ### Lints, evaluations and formats -/

/-- The search for the module root of the file. -/
def rootSearch (session : Session) : ModuleRoot.Search :=
  ModuleRoot.locate (fun path => session.host.list path) session.settings (some session.source)
    session.workspaceFolder session.host

/-- The process of a lint: there is a module root to run in. -/
def vetCommand? (session : Session) : Option CueWatch.Command :=
  match session.rootSearch.outcome with
  | .ok root => session.cue.vetCommand? session.source session.lintFlags (some root)
  | .error _ => none

/-- The process of an evaluation: there are a directory and expressions. -/
def evalCommand? (expressions outType : Settings.Value) (session : Session) :
    Option CueWatch.Command :=
  match session.evalDirectory, expressions.items with
  | .ok directory, .ok items =>
      session.cue.evalCommand? session.source items outType (some directory)
  | _, _ => none

/-- The process of a format. -/
def fmtCommand? (session : Session) : Option CueWatch.Command :=
  session.cue.command? (Cue.words ["fmt", session.source])
    (some (Spelling.directory session.source))

/-- What a session's host is but for the journal. -/
def surroundings (session : Session) : Host := session.host.unlogged

theorem overlooks_surroundings : Overlooks surroundings :=
  ⟨fun _ _ => rfl, fun _ _ _ => rfl, fun _ _ => rfl⟩

theorem keeps_surroundings_digest (report : Text) : Keeps surroundings (digest report) := by
  refine Keeps.bind (Keeps.ofExcept _) fun diagnostics => ?_
  refine Keeps.bind (Keeps.look _) fun source => ?_
  refine Keeps.bind (Keeps.bind (Keeps.require _) fun published => ?_) fun _ => ?_
  · exact Keeps.change fun _ => rfl
  · exact keeps_updateState fun _ => rfl

theorem run_ofFile (session : Session) :
    (ModuleRoot.ofFile session.settings session.source session.workspaceFolder).run session.host =
      (session.rootSearch.outcome,
        { session.host with
          journal := session.host.journal ++ session.rootSearch.records }) := by
  rw [ModuleRoot.ofFile, ModuleRoot.perform, run_bind_of_ok (run_look _ _),
    run_bind_of_ok (run_change _ _), run_ofExcept]
  rfl

theorem launches_vet (session : Session) :
    Host.Launches session.vetCommand? session.host (vet.run session).2.host := by
  have search := run_ofFile session
  rw [vetCommand?]
  cases located : session.rootSearch.outcome with
  | error failure =>
      rw [located] at search
      rw [vet, findModuleRoot, run_bind, run_bind_of_ok (run_look id session), id, run_bind, onHost,
        run_within, search]
      rfl
  | ok root =>
      rw [located] at search
      have rest : ∀ result : ProcessResult, Keeps surroundings (do
          onHost (Host.log .debug ("vet stderr:\n" ++ result.stderr))
          pure result) :=
        fun result => Keeps.bind (overlooks_surroundings.keeps_log _ _) fun _ => Keeps.pure result
      rw [vet, run_bind_of_ok (run_findModuleRoot_of_ok search), run_bind_of_ok (run_look id _), id]
      refine (session.cue.launches_vet session.source session.lintFlags (some root) _).of_unlogged
        ?_ (view_run_bind _ rest _)
      rfl

/-- That a lint has been noted does not count for its process. -/
theorem vetCommand?_begun (session : Session) : session.begun.vetCommand? = session.vetCommand? := by
  have boundary : ModuleRoot.boundary session.settings session.workspaceFolder session.begun.host =
      ModuleRoot.boundary session.settings session.workspaceFolder session.host :=
    ModuleRoot.boundary_congr session.host session.begun.host rfl rfl rfl _ _
  have search : session.begun.rootSearch = session.rootSearch := by
    change ModuleRoot.locate _ session.settings _ session.workspaceFolder _ = _
    rw [rootSearch, ModuleRoot.locate, ModuleRoot.locate, boundary]
    rfl
  rw [vetCommand?, vetCommand?, search]
  rfl

/-- A lint does to the host what its process does. -/
theorem launches_lint (session : Session) :
    Host.Launches session.vetCommand? session.host (lint.run session).2.host := by
  have performed : (lint.run session).2.surroundings = (vet.run session.begun).2.surroundings := by
    refine (overlooks_surroundings.view_perform .lint () lintBody session.notedLint).trans ?_
    exact view_run_bind vet (fun result => keeps_surroundings_digest result.stderr) session.begun
  rw [← vetCommand?_begun]
  exact (launches_vet session.begun).of_unlogged rfl performed

/-- The processes that have been started. -/
def commands (session : Session) : List CueWatch.Command := session.host.spawned

theorem overlooks_commands : Overlooks commands :=
  ⟨fun _ _ => rfl, fun _ _ _ => rfl, fun _ _ => rfl⟩

theorem keeps_commands_of_quiet {α : Type} {step : Attempt Session α}
    (quiet : Host.Quiet Session.host step) : Keeps commands step :=
  fun session => congrArg Prod.fst (quiet.kept session)

/-- What an evaluation does with what has been printed. -/
def keepOutput (scratch : Scratch) (outType : Settings.Value) (output : Text) :
    Attempt Session (Option Text) := do
  let place ← onHost (scratch.allocate "eval")
  let format ← Attempt.ofExcept (OutType.ofValue outType)
  let file := evalFileIn place format
  onHost (Host.writeText file output)
  updateState fun state =>
    (state.withEval output outType (some file)).withStatus ("Evaluated as " ++ outType.shown)
  pure (some file)

/-- An evaluation ends when its process does, or goes on to keep what was printed. -/
theorem evaluateBody_ends (expressions outType : Settings.Value) (session : Session) :
    ∃ ended, Host.Launches (session.evalCommand? expressions outType) session.host ended ∧
      (((evaluateBody expressions outType).run session).2.host = ended ∨
        ∃ output, (evaluateBody expressions outType).run session =
          (keepOutput session.scratch outType output).run { session with host := ended }) := by
  have directory : (Attempt.require evalDirectory).run session = (session.evalDirectory, session) :=
    rfl
  rw [evaluateBody, evalCommand?]
  cases located : session.evalDirectory with
  | error failure =>
      rw [located] at directory
      rw [run_bind_of_error directory]
      exact ⟨session.host, rfl, .inl rfl⟩
  | ok place =>
      rw [located] at directory
      rw [run_bind_of_ok directory]
      cases expressions.items with
      | error failure =>
          rw [run_bind_of_error (run_ofExcept _ session)]
          exact ⟨session.host, rfl, .inl rfl⟩
      | ok items =>
          have launches :=
            session.cue.launches_eval session.source items outType (some place) session.host
          rw [ofExcept_bind_ok, run_bind_of_ok (run_look id session), id]
          rcases evaluated : (session.cue.eval session.source (.array items) outType
            (some place)).run session.host with ⟨failure | output, ended⟩
          · rw [evaluated] at launches
            rw [run_bind_of_error (run_onHost_of_error evaluated)]
            exact ⟨ended, launches, .inl rfl⟩
          · rw [evaluated] at launches
            rw [run_bind_of_ok (run_onHost_of_ok evaluated)]
            exact ⟨ended, launches, .inr ⟨output, rfl⟩⟩

/-- Nothing that is done with what was printed starts a process. -/
theorem keeps_commands_keepOutput (scratch : Scratch) (outType : Settings.Value) (output : Text) :
    Keeps commands (keepOutput scratch outType output) := by
  refine Keeps.bind (keeps_commands_of_quiet (quiet_onHost (scratch.quiet_allocate _)))
    fun place => ?_
  refine Keeps.bind (Keeps.ofExcept _) fun format => ?_
  refine Keeps.bind (keeps_commands_of_quiet (quiet_onHost (Host.quiet_writeText _ output)))
    fun _ => ?_
  exact Keeps.bind (Keeps.change fun _ => rfl) fun _ => Keeps.pure _

theorem commands_evaluateBody (expressions outType : Settings.Value) (session : Session) :
    ((evaluateBody expressions outType).run session).2.commands =
      session.commands ++ (session.evalCommand? expressions outType).toList := by
  obtain ⟨ended, launches, same | ⟨output, goesOn⟩⟩ := evaluateBody_ends expressions outType session
  · rw [commands, same]
    exact launches.spawned
  · rw [goesOn, keeps_commands_keepOutput]
    exact launches.spawned

theorem commands_evaluate (expressions outType : Settings.Value) (session : Session) :
    ((evaluate expressions outType).run session).2.commands =
      session.commands ++
        (session.evalCommand? expressions (chosenOutType outType session.state)).toList := by
  rw [evaluate, run_bind_of_ok (run_look _ session), overlooks_commands.view_perform,
    commands_evaluateBody]
  rfl

theorem launches_formatBody (session : Session) :
    Host.Launches session.fmtCommand? session.host (formatBody.run session).2.host := by
  have reloading : Keeps surroundings (do
      reloadSource
      updateState (State.withStatus "Formatted")) := by
    refine Keeps.bind ?_ fun _ => keeps_updateState fun _ => rfl
    exact Keeps.bind (Keeps.require _) fun text => keeps_updateState fun _ => rfl
  rw [formatBody, run_bind_of_ok (run_look id session), id]
  exact (session.cue.launches_runChecked _ _ session.host).of_unlogged rfl
    (view_run_bind _ (fun _ => reloading) session)

theorem launches_format (session : Session) :
    Host.Launches session.fmtCommand? session.host (format.run session).2.host :=
  (launches_formatBody { session with state := session.state.withError [] }).of_unlogged rfl
    (overlooks_surroundings.view_perform .format () formatBody session)

/-! ### Requests -/

/-- Reading the file again and linting it, if lints on save are asked for. -/
theorem savedBody_cases (session : Session) :
    (∃ linted, session.reloadedForLint? = some linted ∧
      session.settings.lintOnSave = true ∧ linted.fixture = session.fixture ∧
      linted.host = session.host ∧ savedBody.run session = lint.run linted) ∨
    session.reloadedForLint? = none ∧ (savedBody.run session).2.host = session.host := by
  rw [savedBody, reloadedForLint?]
  cases read : session.host.readText session.source with
  | error failure =>
      have unread := run_reloadSource_of_error read
      rw [unread, run_bind_of_error unread]
      exact .inr ⟨rfl, rfl⟩
  | ok text =>
      have reloaded := run_reloadSource_of_ok read
      rw [reloaded, run_bind_of_ok reloaded, run_bind_of_ok (run_look _ _)]
      by_cases onSave : session.settings.lintOnSave
      · refine .inl ⟨session.withSource text, if_pos onSave, onSave, rfl, rfl, ?_⟩
        exact congrArg (Attempt.run · _) (if_pos onSave)
      · refine .inr ⟨if_neg onSave, ?_⟩
        have unasked : ¬ (session.withSource text).settings.lintOnSave = true := onSave
        rw [if_neg unasked]
        rfl

theorem launches_savedBody (session : Session) :
    Host.Launches (session.reloadedForLint?.bind vetCommand?) session.host
      (savedBody.run session).2.host := by
  rcases savedBody_cases session with ⟨linted, begins, -, -, host, ran⟩ | ⟨none, host⟩
  · rw [begins, ran, ← host]
    exact launches_lint linted
  · rw [none]
    exact congrArg Host.unlogged host

/-- A request that begins a lint changes nothing before that was chosen when the session was
created, and what it does from there on is what a lint does. -/
theorem of_lintedFrom? {request : Request} {session linted : Session}
    (begins : request.lintedFrom? session = some linted) :
    linted.fixture = session.fixture ∧
    ∀ {γ : Type} {view : Session → γ}, Overlooks view →
      (∀ session watcher, view { session with watcher := watcher } = view session) →
      view (request.perform.run session).2 = view (lint.run linted).2 := by
  have ofSavedBody : ∀ {session linted : Session}, session.reloadedForLint? = some linted →
      linted.fixture = session.fixture ∧ savedBody.run session = lint.run linted := by
    intro session linted begins
    rcases savedBody_cases session with ⟨own, isOwn, -, same, -, ran⟩ | ⟨none, -⟩
    · rw [begins] at isOwn
      obtain rfl := Option.some.inj isOwn
      exact ⟨same, ran⟩
    · rw [begins] at none
      cases none
  cases request with
  | start =>
      obtain ⟨same, ran⟩ := ofSavedBody begins
      refine ⟨same, fun overlooks watcherKept => ?_⟩
      exact (overlooks.view_start watcherKept session).trans (by rw [ran])
  | lint =>
      obtain rfl := Option.some.inj begins
      exact ⟨rfl, fun _ _ => rfl⟩
  | setFlags flags =>
      have kept := ignoresLints_fixture.keeps_storeFlags flags session
      rw [Request.lintedFrom?] at begins
      split at begins
      next reached stored =>
        obtain rfl := Option.some.inj begins
        rw [stored] at kept
        refine ⟨kept, fun overlooks watcherKept => ?_⟩
        rw [Request.perform, setFlags, run_bind_of_ok stored]
      next => cases begins
  | saved path =>
      obtain ⟨same, ran⟩ := ofSavedBody begins
      refine ⟨same, fun overlooks watcherKept => ?_⟩
      exact (overlooks.view_saved path session).trans (by rw [ran])
  | _ => cases begins

theorem keeps_commands_changeSetting (key : Text) (value : Settings.Value) :
    Keeps commands (changeSetting key value) := by
  refine Keeps.bind (Keeps.change fun _ => rfl) fun _ => Keeps.bind (Keeps.look _) fun store => ?_
  have saved : Keeps Host.processes store.save :=
    Keeps.bind (fun host => (Host.additive_makeDirectories store.directory host).processes)
      fun _ => (Host.quiet_writeText _ _).kept
  exact fun session => congrArg Prod.fst (saved session.host)

theorem keeps_commands_storeFlags (flags : Settings.Value) : Keeps commands (storeFlags flags) := by
  refine Keeps.bind (Keeps.ofExcept _) fun items => ?_
  refine Keeps.bind (Keeps.change fun _ => rfl) fun _ => ?_
  refine Keeps.bind (keeps_updateState fun _ => rfl) fun _ => ?_
  exact Keeps.bind (keeps_commands_changeSetting _ _) fun _ => Keeps.change fun _ => rfl

/-- The process that a request starts, if it starts one. -/
def Request.command? : Request → Session → Option CueWatch.Command
  | .evaluate expressions outType, session =>
      session.evalCommand? expressions (chosenOutType outType session.state)
  | .format, session => session.fmtCommand?
  | request, session => (request.lintedFrom? session).bind vetCommand?

/-- The process that a turn starts, if it starts one. -/
def Turn.command? (turn : Turn) : Option CueWatch.Command := turn.request.command? turn.before

/-- A request that begins a lint does to the host in which the lint begins what the process of the
lint does. -/
theorem launches_of_lintedFrom? {request : Request} {session linted : Session}
    (begins : request.lintedFrom? session = some linted) :
    Host.Launches linted.vetCommand? linted.host (request.perform.run session).2.host := by
  obtain ⟨-, ends⟩ := of_lintedFrom? begins
  exact (launches_lint linted).of_unlogged rfl (ends overlooks_surroundings fun _ _ => rfl)

/-- A request starts the process that is told from it, and no other. -/
theorem commands_perform (request : Request) (session : Session) :
    (request.perform.run session).2.commands =
      session.commands ++ (request.command? session).toList := by
  have idle : ∀ {step : Attempt Session Unit}, Keeps commands step →
      (step.run session).2.commands =
        session.commands ++ (none : Option CueWatch.Command).toList := by
    intro step kept
    rw [kept session, Option.toList_none, List.append_nil]
  cases request with
  | start =>
      exact (overlooks_commands.view_start (fun _ _ => rfl) session).trans
        (launches_savedBody session).spawned
  | stop =>
      refine idle (Keeps.bind (Keeps.change fun _ => rfl) fun _ => ?_)
      refine Keeps.bind (Keeps.require _) fun published => ?_
      refine Keeps.bind (Keeps.change fun _ => rfl) fun _ =>
        Keeps.bind (Keeps.look _) fun scratch => ?_
      exact keeps_commands_of_quiet (quiet_onHost scratch.quiet_cleanup)
  | lint => exact (launches_lint session).spawned
  | evaluate expressions outType =>
      exact (view_run_bind (evaluate expressions outType) (fun _ => Keeps.pure ()) session).trans
        (commands_evaluate expressions outType session)
  | format => exact (launches_format session).spawned
  | reloadSource => exact idle (keeps_commands_of_quiet quiet_reloadSource)
  | setOutType outType =>
      exact idle (Keeps.bind (keeps_updateState fun _ => rfl) fun _ =>
        keeps_commands_changeSetting _ _)
  | setLintOnSave enabled =>
      refine idle (Keeps.bind (keeps_commands_changeSetting _ _) fun _ => ?_)
      refine Keeps.bind (Keeps.change fun _ => rfl) fun _ => ?_
      exact Keeps.bind (keeps_updateState fun _ => rfl) fun _ => overlooks_commands.keeps_notify
  | setFlags flags =>
      have kept := keeps_commands_storeFlags flags session
      change ((storeFlags flags >>= fun _ => lint).run session).2.commands =
        session.commands ++ (((Request.setFlags flags).lintedFrom? session).bind vetCommand?).toList
      rw [Request.lintedFrom?]
      rcases stored : (storeFlags flags).run session with ⟨failure | _, reached⟩
      · rw [stored] at kept
        rw [run_bind_of_error stored, kept, Option.bind_none, Option.toList_none, List.append_nil]
      · rw [stored] at kept
        rw [run_bind_of_ok stored, ← kept]
        exact (launches_lint reached).spawned
  | saved path =>
      exact (overlooks_commands.view_saved path session).trans
        (launches_savedBody (session.notedSave path)).spawned

end Session

end CueWatch
