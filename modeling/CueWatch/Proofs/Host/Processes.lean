import CueWatch.Host.Home
import CueWatch.Host.Process
import CueWatch.Proofs.Attempt

/-!
Contract: which steps start processes, and that only processes are interrupted.

Owns:
- `Reportable`, the outcomes that are no interruption by the user, and `Calm`, the hosts on which no
  process to come is interrupted;
- `Quiet`, the steps that start no process and are not interrupted, and `Starts`, those that start
  at most one process and are interrupted only by it, with the rules by which they are put together;
- that the operations on files that commands use are quiet, and what `spawn` starts;
- `Launches`, that a later host is one on which a process has been started, journal apart.

Does not own: which commands are started (`Proofs.Session`).
-/

namespace CueWatch.Host

open Attempt

variable {σ α β : Type}

/-! ### Outcomes -/

/-- An outcome that is no interruption by the user. -/
def Reportable (outcome : Except Failure α) : Prop :=
  ∀ failure, outcome = .error failure → failure.isInterrupt = false

theorem reportable_ok (value : α) : Reportable (.ok value : Except Failure α) := by
  rintro failure ⟨⟩

theorem reportable_error {failure : Failure} (ordinary : failure.isInterrupt = false) :
    Reportable (.error failure : Except Failure α) := by
  rintro _ ⟨⟩
  exact ordinary

theorem Reportable.map {outcome : Except Failure α} (reportable : Reportable outcome)
    (f : α → β) : Reportable (outcome.map f) := by
  cases outcome with
  | ok value => exact reportable_ok _
  | error failure => exact reportable_error (reportable failure rfl)

/-- A failure that is passed on is one that the first outcome has. -/
theorem Reportable.passed {outcome : Except Failure α} (reportable : Reportable outcome)
    {failure : Failure} (failed : outcome = .error failure) :
    Reportable (.error failure : Except Failure β) :=
  reportable_error (reportable failure failed)

/-- A host on which no process to come is interrupted by the user. -/
def Calm (host : Host) : Prop :=
  ∀ outcome ∈ host.outcomes, ∀ error, outcome.refusal = some error → error.family ≠ .interrupt

/-- The processes of a host: those that have been started, and the outcomes of those to come. -/
def processes (host : Host) : List Command × List ProcessOutcome := (host.spawned, host.outcomes)

/-! ### Steps that start no process -/

/-- A step that starts no process and is not interrupted. -/
structure Quiet (see : σ → Host) (step : Attempt σ α) : Prop where
  kept : Keeps (fun state => (see state).processes) step
  reportable : ∀ state, Reportable (step.run state).1

namespace Quiet

variable {see : σ → Host}

theorem pure (value : α) : Quiet see (Pure.pure value : Attempt σ α) :=
  ⟨Keeps.pure value, fun _ => reportable_ok value⟩

theorem fail {failure : Failure} (ordinary : failure.isInterrupt = false) :
    Quiet see (Attempt.fail failure : Attempt σ α) :=
  ⟨Keeps.fail failure, fun _ => reportable_error ordinary⟩

theorem look (view : σ → α) : Quiet see (Attempt.look view) :=
  ⟨Keeps.look view, fun _ => reportable_ok _⟩

theorem require {view : σ → Except Failure α} (reportable : ∀ state, Reportable (view state)) :
    Quiet see (Attempt.require view) :=
  ⟨Keeps.require view, reportable⟩

theorem ofExcept {outcome : Except Failure α} (reportable : Reportable outcome) :
    Quiet see (Attempt.ofExcept outcome : Attempt σ α) := by
  refine ⟨Keeps.ofExcept outcome, fun state => ?_⟩
  rwa [run_ofExcept]

theorem change {update : σ → σ}
    (kept : ∀ state, (see (update state)).processes = (see state).processes) :
    Quiet see (Attempt.change update) :=
  ⟨Keeps.change kept, fun _ => reportable_ok ()⟩

theorem bind {step : Attempt σ α} {next : α → Attempt σ β} (first : Quiet see step)
    (later : ∀ value, Quiet see (next value)) : Quiet see (step >>= next) := by
  refine ⟨first.kept.bind fun value => (later value).kept, fun state => ?_⟩
  rcases ran : step.run state with ⟨failure | value, reached⟩
  · rw [run_bind_of_error ran]
    exact reportable_error (first.reportable state failure (congrArg Prod.fst ran))
  · rw [run_bind_of_ok ran]
    exact (later value).reportable reached

/-- What follows a look need be quiet only after what can be seen. -/
theorem look_bind {view : σ → α} {next : α → Attempt σ β}
    (later : ∀ state, Quiet see (next (view state))) : Quiet see (Attempt.look view >>= next) :=
  ⟨fun state => (later state).kept state, fun state => (later state).reportable state⟩

theorem rescue {step : Attempt σ α} {handler : Failure → Attempt σ α} (first : Quiet see step)
    (later : ∀ failure, failure.isInterrupt = false → Quiet see (handler failure)) :
    Quiet see (step.rescue handler) := by
  have reportable := first.reportable
  have kept := first.kept
  constructor
  · intro state
    rw [run_rescue]
    rcases ran : step.run state with ⟨failure | value, reached⟩
    · have ordinary := reportable state failure (congrArg Prod.fst ran)
      refine ((later failure ordinary).kept reached).trans ?_
      have same := kept state
      rwa [ran] at same
    · have same := kept state
      rwa [ran] at same
  · intro state
    rw [run_rescue]
    rcases ran : step.run state with ⟨failure | value, reached⟩
    · have ordinary := reportable state failure (congrArg Prod.fst ran)
      exact (later failure ordinary).reportable reached
    · exact reportable_ok value

theorem ite {condition : Prop} [Decidable condition] {step other : Attempt σ α}
    (first : Quiet see step) (second : Quiet see other) :
    Quiet see (if condition then step else other) := by
  split
  · exact first
  · exact second

end Quiet

/-! ### Steps that start one process -/

/-- A step that starts at most one process, which is of a kind, and that is interrupted only by a
process. -/
structure Starts (see : σ → Host) (kind : Command → Prop) (step : Attempt σ α) : Prop where
  spawned : ∀ state, ∃ started : List Command, started.length ≤ 1 ∧
    (∀ command ∈ started, kind command) ∧
      (see (step.run state).2).spawned = (see state).spawned ++ started
  outcomes : ∀ state, (see (step.run state).2).outcomes <:+ (see state).outcomes
  reportable : ∀ state, (see state).Calm → Reportable (step.run state).1

theorem Calm.of_suffix {host later : Host} (calm : Calm host)
    (fewer : later.outcomes <:+ host.outcomes) : Calm later :=
  fun outcome member => calm outcome (fewer.subset member)

namespace Starts

variable {see : σ → Host} {kind : Command → Prop}

theorem mono {other : Command → Prop} {step : Attempt σ α} (starts : Starts see kind step)
    (implied : ∀ command, kind command → other command) : Starts see other step where
  spawned := by
    intro state
    obtain ⟨started, few, each, spawned⟩ := starts.spawned state
    exact ⟨started, few, fun command member => implied command (each command member), spawned⟩
  outcomes := starts.outcomes
  reportable := starts.reportable

theorem of_quiet {step : Attempt σ α} (quiet : Quiet see step) : Starts see kind step where
  spawned := by
    intro state
    refine ⟨[], Nat.zero_le 1, by rintro command ⟨⟩, ?_⟩
    rw [List.append_nil]
    exact congrArg Prod.fst (quiet.kept state)
  outcomes := by
    intro state
    have same : (see (step.run state).2).outcomes = (see state).outcomes :=
      congrArg Prod.snd (quiet.kept state)
    exact ⟨[], same⟩
  reportable := fun state _ => quiet.reportable state

/-- Before the process, quiet steps may stand. -/
theorem after_quiet {step : Attempt σ α} {next : α → Attempt σ β} (first : Quiet see step)
    (later : ∀ value, Starts see kind (next value)) : Starts see kind (step >>= next) := by
  refine ⟨fun state => ?_, fun state => ?_, fun state calm => ?_⟩
  all_goals
    have kept := first.kept state
    rcases ran : step.run state with ⟨failure | value, reached⟩
    all_goals rw [ran] at kept
  · rw [run_bind_of_error ran]
    refine ⟨[], Nat.zero_le 1, by rintro command ⟨⟩, ?_⟩
    rw [List.append_nil]
    exact congrArg Prod.fst kept
  · rw [run_bind_of_ok ran]
    have same : (see reached).spawned = (see state).spawned := congrArg Prod.fst kept
    rw [← same]
    exact (later value).spawned reached
  · rw [run_bind_of_error ran]
    have same : (see reached).outcomes = (see state).outcomes := congrArg Prod.snd kept
    exact ⟨[], same⟩
  · rw [run_bind_of_ok ran]
    have same : (see reached).outcomes = (see state).outcomes := congrArg Prod.snd kept
    rw [← same]
    exact (later value).outcomes reached
  · rw [run_bind_of_error ran]
    exact reportable_error (first.reportable state failure (congrArg Prod.fst ran))
  · rw [run_bind_of_ok ran]
    have same : (see reached).outcomes = (see state).outcomes := congrArg Prod.snd kept
    exact (later value).reportable reached (calm.of_suffix ⟨[], same⟩)

/-- A step that leaves the processes as another one does starts what that one starts. -/
theorem of_same {step : Attempt σ α} {other : Attempt σ β} (starts : Starts see kind step)
    (same : ∀ state, (see (other.run state).2).processes = (see (step.run state).2).processes)
    (reportable : ∀ state, (see state).Calm → Reportable (other.run state).1) :
    Starts see kind other := by
  refine ⟨fun state => ?_, fun state => ?_, reportable⟩
  · have spawned : (see (other.run state).2).spawned = (see (step.run state).2).spawned :=
      congrArg Prod.fst (same state)
    rw [spawned]
    exact starts.spawned state
  · have outcomes : (see (other.run state).2).outcomes = (see (step.run state).2).outcomes :=
      congrArg Prod.snd (same state)
    rw [outcomes]
    exact starts.outcomes state

/-- After the process, quiet steps may stand. -/
theorem before_quiet {step : Attempt σ α} {next : α → Attempt σ β} (first : Starts see kind step)
    (later : ∀ value, Quiet see (next value)) : Starts see kind (step >>= next) := by
  let seen (state : σ) := (see state).processes
  have same : ∀ state, seen ((step >>= next).run state).2 = seen (step.run state).2 :=
    view_run_bind step fun value => (later value).kept
  refine first.of_same same fun state calm => ?_
  rcases ran : step.run state with ⟨failure | value, reached⟩
  · rw [run_bind_of_error ran]
    exact reportable_error (first.reportable state calm failure (congrArg Prod.fst ran))
  · rw [run_bind_of_ok ran]
    exact (later value).reportable reached

/-- Failures may be handled by quiet steps. An interruption need only be handled without starting
a process, since on a calm host there is none. -/
theorem rescue {step : Attempt σ α} {handler : Failure → Attempt σ α}
    (first : Starts see kind step)
    (kept : ∀ failure, Keeps (fun state => (see state).processes) (handler failure))
    (later : ∀ failure, failure.isInterrupt = false → Quiet see (handler failure)) :
    Starts see kind (step.rescue handler) := by
  let seen (state : σ) := (see state).processes
  have same : ∀ state, seen ((step.rescue handler).run state).2 = seen (step.run state).2 :=
    view_run_rescue step kept
  refine first.of_same same fun state calm => ?_
  rw [run_rescue]
  rcases ran : step.run state with ⟨failure | value, reached⟩
  · have ordinary := first.reportable state calm failure (congrArg Prod.fst ran)
    exact (later failure ordinary).reportable reached
  · exact reportable_ok value

end Starts

/-! ### Operations on files -/

theorem reportable_walk (followLast : Bool) (path : Text) (host : Host) :
    Reportable (host.walk followLast path) := by
  unfold walk
  split
  · exact reportable_error rfl
  · split
    · exact reportable_ok _
    · exact reportable_error rfl

theorem reportable_find (followLast : Bool) (path : Text) (host : Host) :
    Reportable (host.find followLast path) := by
  unfold find
  split
  · exact reportable_error rfl
  · split
    · exact reportable_ok _
    · exact reportable_error rfl

theorem reportable_isPresent (path : Text) (host : Host) : Reportable (isPresent path host) := by
  unfold isPresent
  split
  · exact reportable_ok _
  · split
    · exact reportable_error rfl
    · exact reportable_ok _

theorem reportable_list (path : Text) (host : Host) : Reportable (list path host) := by
  unfold list
  split
  next failed => exact (reportable_find true path host).passed failed
  · exact reportable_ok _
  · exact reportable_error rfl

theorem reportable_content (path : Text) (host : Host) : Reportable (content path host) := by
  unfold content
  split
  next failed => exact (reportable_find true path host).passed failed
  · exact reportable_ok _
  · exact reportable_error rfl

theorem reportable_readText (path : Text) (host : Host) : Reportable (readText path host) := by
  unfold readText
  split
  next failed => exact (reportable_content path host).passed failed
  · split
    · exact reportable_ok _
    · exact reportable_error rfl

theorem reportable_lastPlace (path : Text) (host : Host) : Reportable (lastPlace path host) := by
  unfold lastPlace
  split
  · exact reportable_error rfl
  · exact reportable_walk _ _ host

theorem reportable_workingText (host : Host) : Reportable host.workingText := by
  refine Reportable.map ?_ Path.text
  unfold workingPath
  split
  · exact reportable_ok _
  · exact reportable_error rfl

theorem reportable_absolute (path : Text) (host : Host) : Reportable (host.absolute path) := by
  unfold absolute
  split
  · exact reportable_ok _
  · exact (reportable_workingText host).map _

theorem reportable_home (host : Host) : Reportable host.home := by
  unfold home
  split
  · exact reportable_error rfl
  · exact reportable_ok _

/-- Resolving links is not interrupted if it is not where links are followed. -/
theorem reportable_resolveWith (tree : FileTree) (workingDirectory : FileTree.Spot)
    {follow : FileTree.Known → Text → List Text → Except Failure FileTree.Resolution}
    (follows : ∀ known path names, Reportable (follow known path names)) (known : FileTree.Known)
    (path : Text) (components : List Text) :
    Reportable (tree.resolveWith workingDirectory follow known path components) := by
  fun_induction FileTree.resolveWith tree workingDirectory follow known path components with
  | case1 => exact reportable_ok _
  | case2 _ _ _ _ _ inductionHypothesis => exact inductionHypothesis
  | case3 _ _ _ _ inductionHypothesis => exact inductionHypothesis
  | case4 => exact reportable_error rfl
  | case5 _ _ _ _ _ _ _ _ _ inductionHypothesis => exact inductionHypothesis
  | case6 _ _ _ _ _ _ _ _ _ _ _ _ inductionHypothesis => exact inductionHypothesis
  | case7 => exact reportable_ok _
  | case8 _ _ _ _ _ _ _ _ _ _ _ _ failed => exact (follows _ _ _).passed failed
  | case9 _ _ _ _ _ _ _ _ _ _ _ _ _ _ inductionHypothesis => exact inductionHypothesis
  | case10 => exact reportable_ok _

theorem reportable_resolveFrom (tree : FileTree) (workingDirectory : FileTree.Spot) (nesting : Nat)
    (known : FileTree.Known) (path : Text) (components : List Text) :
    Reportable (tree.resolveFrom workingDirectory nesting known path components) := by
  induction nesting generalizing known path components with
  | zero => exact reportable_resolveWith tree _ (fun _ _ _ => reportable_error rfl) _ _ _
  | succ nesting inductionHypothesis =>
      exact reportable_resolveWith tree _ inductionHypothesis _ _ _

theorem reportable_canonical (path : Text) (host : Host) : Reportable (host.canonical path) := by
  have resolved : Reportable (host.tree.resolve host.workingDirectory path) :=
    (reportable_resolveFrom host.tree _ _ _ _ _).map _
  unfold canonical
  split
  next failed => exact resolved.passed failed
  · exact reportable_absolute _ host

theorem quiet_log (level : Journal.Level) (text : Text) : Quiet id (log level text) :=
  Quiet.change fun _ => rfl

theorem quiet_refuse (error : SystemError) (path : Text) :
    Quiet id (refuse error path : Attempt Host α) := Quiet.fail rfl

theorem quiet_placeEntry (place : Path) (entry : Entry) : Quiet id (placeEntry place entry) :=
  Quiet.change fun _ => rfl

theorem quiet_writeContent (path : Text) (content : Content) :
    Quiet id (writeContent path content) := by
  unfold writeContent
  refine Quiet.ite ?_ ?_
  · exact Quiet.bind (Quiet.require (reportable_lastPlace path)) fun _ => quiet_refuse _ path
  · refine Quiet.bind (Quiet.require (reportable_walk true path)) fun place => ?_
    cases place with
    | free place asDirectory => exact Quiet.ite (quiet_refuse _ path) (quiet_placeEntry place _)
    | taken spot =>
        refine Quiet.bind (Quiet.look _) fun entry => ?_
        split
        · exact quiet_placeEntry _ _
        · exact quiet_refuse _ path

theorem quiet_writeText (path text : Text) : Quiet id (writeText path text) :=
  quiet_writeContent path (.text text)

theorem quiet_makeDirectory (path : Text) : Quiet id (makeDirectory path) := by
  refine Quiet.bind (Quiet.require (reportable_lastPlace path)) fun place => ?_
  cases place with
  | free place _ => exact quiet_placeEntry place .directory
  | taken _ => exact quiet_refuse _ path

theorem quiet_ensureDirectory (path : Text) : Quiet id (ensureDirectory path) := by
  refine Quiet.rescue (quiet_makeDirectory path) fun failure ordinary => ?_
  exact Quiet.bind (Quiet.look _) fun _ => Quiet.ite (Quiet.pure ()) (Quiet.fail ordinary)

theorem quiet_makeTree (isLenient : Bool) (path : Text) : Quiet id (makeTree isLenient path) := by
  have made : ∀ (isComplete : Bool) (path : Text), Quiet id
      (if isComplete then pure ()
        else if isLenient then ensureDirectory path
        else makeDirectory path : Attempt Host Unit) :=
    fun isComplete path => Quiet.ite (Quiet.pure ())
      (Quiet.ite (quiet_ensureDirectory path) (quiet_makeDirectory path))
  fun_induction makeTree isLenient path with
  | case1 path _ _ _ inductionHypothesis =>
      refine Quiet.bind (Quiet.look _) fun isThere => Quiet.ite ?_ ?_
      · exact Quiet.bind (Quiet.pure false) fun isComplete => made isComplete path
      · refine Quiet.bind (Quiet.rescue inductionHypothesis fun failure ordinary => ?_) fun _ => ?_
        · split
          · exact Quiet.pure ()
          · exact Quiet.fail ordinary
        · exact Quiet.bind (Quiet.pure _) fun isComplete => made isComplete path
  | case2 path => exact Quiet.bind (Quiet.pure false) fun isComplete => made isComplete path

theorem quiet_makeTemporaryFrom (start directory : Text) (draws : Nat) :
    Quiet id (makeTemporaryFrom start directory draws) := by
  induction draws with
  | zero => exact quiet_refuse _ directory
  | succ draws inductionHypothesis =>
      refine Quiet.bind (Quiet.change fun _ => rfl) fun _ => ?_
      refine Quiet.bind (Quiet.look _) fun number => ?_
      refine Quiet.rescue ?_ fun failure ordinary => ?_
      · exact Quiet.bind (quiet_makeDirectory _) fun _ => Quiet.pure _
      · split
        · exact inductionHypothesis
        · exact Quiet.fail ordinary

theorem quiet_makeTemporary (start directory : Text) : Quiet id (makeTemporary start directory) :=
  Quiet.bind (Quiet.look _) fun _ => quiet_makeTemporaryFrom start directory _

theorem quiet_writeWithParents (path : Text) (content : Content) :
    Quiet id (writeWithParents path content) := by
  unfold writeWithParents
  dsimp only
  split
  · exact Quiet.bind (Quiet.pure ()) fun _ => quiet_writeContent path content
  · exact Quiet.bind (quiet_makeTree true _) fun _ => quiet_writeContent path content

theorem quiet_writeAll (writes : List (Text × Content)) : Quiet id (writeAll writes) := by
  induction writes with
  | nil => exact Quiet.pure ()
  | cons write writes inductionHypothesis =>
      exact Quiet.bind (quiet_writeWithParents write.1 write.2) fun _ => inductionHypothesis

theorem processes_removeTree (path : Text) (host : Host) :
    (host.removeTree path).processes = host.processes := by
  unfold removeTree
  split
  next => split <;> rfl
  next => rfl

/-! ### Processes -/

/-- What an outcome comes to: the files are written, and the process has run or not. -/
def settle (outcome : ProcessOutcome) : Attempt Host ProcessResult := do
  writeAll outcome.writes
  match outcome.refusal with
  | some error => Attempt.fail (.raised error)
  | none => pure outcome.result

theorem keeps_settle (outcome : ProcessOutcome) : Keeps processes (settle outcome) := by
  refine Keeps.bind (quiet_writeAll outcome.writes).kept fun _ => ?_
  cases outcome.refusal with
  | some error => exact Keeps.fail _
  | none => exact Keeps.pure _

theorem quiet_settle {outcome : ProcessOutcome}
    (calm : ∀ error, outcome.refusal = some error → error.family ≠ .interrupt) :
    Quiet id (settle outcome) := by
  refine Quiet.bind (quiet_writeAll outcome.writes) fun _ => ?_
  cases refused : outcome.refusal with
  | some error =>
      refine Quiet.fail ?_
      have ordinary := calm error refused
      simpa [Failure.isInterrupt] using ordinary
  | none => exact Quiet.pure _

/-- The host on which a process has just been started. -/
def started (command : Command) (host : Host) : Host :=
  { host with spawned := host.spawned ++ [command], outcomes := host.outcomes.tail }

theorem run_spawn (argv : List Text) (directory : Option Text) (host : Host) :
    (spawn argv directory).run host =
      (settle (host.outcomes.headD .silent)).run (started ⟨argv, directory⟩ host) := by
  rw [spawn, run_bind_of_ok (run_change _ host), started]
  cases outcomes : host.outcomes with
  | nil =>
      refine run_bind_of_ok ?_
      simp only [Attempt.run, takeOutcome]
      rfl
  | cons outcome rest =>
      refine run_bind_of_ok ?_
      simp only [Attempt.run, takeOutcome]
      rfl

/-- A process that runs gives the result of the next outcome. -/
theorem result_of_spawn {argv : List Text} {directory : Option Text} {host ended : Host}
    {result : ProcessResult} (ran : (spawn argv directory).run host = (.ok result, ended)) :
    result = (host.outcomes.headD .silent).result := by
  rw [run_spawn, settle, run_bind_eq_ok_iff] at ran
  obtain ⟨_, written, -, gave⟩ := ran
  split at gave
  next => cases gave
  next => exact (Except.ok.inj (Prod.mk.inj gave).1).symm

/-- A process is always started, and its own interruption is the only one. -/
theorem starts_spawn (argv : List Text) (directory : Option Text) :
    Starts id (· = ⟨argv, directory⟩) (spawn argv directory) := by
  have kept : ∀ host, (id ((spawn argv directory).run host).2).processes =
      (started ⟨argv, directory⟩ host).processes := by
    intro host
    rw [run_spawn]
    exact keeps_settle _ _
  refine ⟨fun host => ?_, fun host => ?_, fun host calm => ?_⟩
  · exact ⟨[⟨argv, directory⟩], Nat.le_refl 1, fun command => List.mem_singleton.mp,
      congrArg Prod.fst (kept host)⟩
  · have same : (id ((spawn argv directory).run host).2).outcomes = host.outcomes.tail :=
      congrArg Prod.snd (kept host)
    rw [same]
    exact List.tail_suffix _
  · rw [run_spawn]
    refine (quiet_settle ?_).reportable _
    have calm : Calm host := calm
    unfold Calm at calm
    cases outcomes : host.outcomes with
    | nil => rintro error ⟨⟩
    | cons outcome rest =>
        rw [outcomes] at calm
        exact calm outcome List.mem_cons_self

/-! ### Hosts but for their journals -/

/-- The host as it is but for its journal. -/
def unlogged (host : Host) : Host := { host with journal := [] }

/-- Up to the journal, a later host is the one on which a process has been started and has ended;
without a process it is the same. -/
def Launches (command? : Option Command) (host later : Host) : Prop :=
  match command? with
  | none => later.unlogged = host.unlogged
  | some command => ∃ moment : Host, moment.unlogged = host.unlogged ∧
      later.unlogged = ((spawn command.argv command.directory).run moment).2.unlogged

@[simp]
theorem spawned_unlogged (host : Host) : host.unlogged.spawned = host.spawned := rfl

theorem spawned_of_unlogged {host later : Host} (same : later.unlogged = host.unlogged) :
    later.spawned = host.spawned := by
  rw [← spawned_unlogged later, same, spawned_unlogged]

theorem spawned_spawn (argv : List Text) (directory : Option Text) (host : Host) :
    ((spawn argv directory).run host).2.spawned = host.spawned ++ [⟨argv, directory⟩] := by
  rw [run_spawn]
  exact congrArg Prod.fst (keeps_settle _ (started ⟨argv, directory⟩ host))

namespace Launches

variable {command? : Option Command} {host later : Host}

theorem spawned (launches : Launches command? host later) :
    later.spawned = host.spawned ++ command?.toList := by
  cases command? with
  | none => rw [spawned_of_unlogged launches, Option.toList_none, List.append_nil]
  | some command =>
      obtain ⟨moment, begins, ends⟩ := launches
      rw [spawned_of_unlogged ends, spawned_spawn, spawned_of_unlogged begins]
      rfl

/-- Only what stands beside the journal counts. -/
theorem of_unlogged (launches : Launches command? host later) {earlier latest : Host}
    (begins : host.unlogged = earlier.unlogged) (ends : latest.unlogged = later.unlogged) :
    Launches command? earlier latest := by
  cases command? with
  | none => exact ends.trans (launches.trans begins)
  | some command =>
      obtain ⟨moment, same, ran⟩ := launches
      exact ⟨moment, same.trans begins, ends.trans ran⟩

end Launches

end CueWatch.Host
