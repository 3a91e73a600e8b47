import CueWatch.Proofs.Cue.Command
import CueWatch.Proofs.Session.Command

/-!
Contract: a command starts at most one process, of its own kind, and nothing else interrupts it.

Owns:
- that looking for a module root, reading a report, and choosing arguments are no reasons for an
  interruption;
- `Command.word`, by which the process of a command is told from others, and the processes of each
  command;
- how a command ends on a host on which no process is interrupted: only a missing `cue` program
  escapes.

Does not own: operations on files (`Proofs.Host.Processes`), and when a command succeeds
(`Proofs.Session.Success`).
-/

namespace CueWatch

open Attempt Host

/-! ### Values, reports and templates -/

theorem Settings.Value.reportable_items (value : Settings.Value) : Reportable value.items := by
  unfold Settings.Value.items
  split
  · exact reportable_ok _
  · exact reportable_error rfl

theorem Settings.Value.reportable_spread (value : Settings.Value) : Reportable value.spread := by
  unfold Settings.Value.spread
  split
  · exact reportable_ok _
  · exact reportable_error rfl

theorem OutType.reportable_ofValue (value : Settings.Value) :
    Reportable (OutType.ofValue value) := by
  unfold OutType.ofValue
  split
  · exact reportable_ok _
  · exact reportable_error rfl

theorem Location.reportable_number (digits : Text) : Reportable (Location.number digits) := by
  unfold Location.number
  split
  · exact reportable_error rfl
  · exact reportable_ok _

theorem Location.reportable_diagnostic (message : Text) (location : Location) :
    Reportable (location.diagnostic message) := by
  unfold Location.diagnostic
  split
  next failed => exact (Location.reportable_number _).passed failed
  · split
    next failed => exact (Location.reportable_number _).passed failed
    · exact reportable_ok _

theorem Report.Reader.reportable_feed (reader : Report.Reader) (line : Text) :
    Reportable (reader.feed line).finding := by
  unfold Report.Reader.feed
  split
  · exact reportable_ok _
  · split
    · exact reportable_ok _
    · dsimp only
      split
      · exact reportable_ok _
      · exact (Location.reportable_diagnostic _ _).map some

theorem Report.Reader.reportable_read (reader : Report.Reader) (lines : List Text) :
    Reportable (reader.read lines) := by
  induction lines generalizing reader with
  | nil => exact reportable_ok []
  | cons line rest inductionHypothesis =>
      unfold Report.Reader.read
      dsimp only
      split
      next failed => exact (reader.reportable_feed line).passed failed
      · exact inductionHypothesis _
      · exact (inductionHypothesis _).map _

theorem Report.reportable_parse (report : Text) : Reportable (Report.parse report) :=
  Report.Reader.initial.reportable_read _

theorem Settings.Template.reportable_expand (template : Text) (workspaceFolder : Option Text)
    (host : Host) : Reportable (Settings.Template.expand template workspaceFolder host) := by
  have value : ∀ segment : Settings.Template.Segment,
      Reportable (segment.value workspaceFolder host) := by
    intro segment
    rcases segment with c | name
    · exact reportable_ok [c]
    · rw [Settings.Template.Segment.value]
      cases Settings.Template.Variable.ofName name with
      | userHome => exact (reportable_home host).map _
      | workingDirectory => exact reportable_workingText host
      | _ => exact reportable_ok _
  unfold Settings.Template.expand
  induction Settings.Template.Segment.ofTemplate template with
  | nil => exact reportable_ok []
  | cons segment rest inductionHypothesis =>
      unfold Settings.Template.fill
      split
      next failed => exact (value segment).passed failed
      · exact inductionHypothesis.map _

/-! ### Module roots -/

namespace ModuleRoot

theorem reportable_boundary (settings : Settings.Store) (workspaceFolder : Option Text)
    (host : Host) : Reportable (boundary settings workspaceFolder host) := by
  unfold boundary expandTemplate
  split
  · split
    next failed => exact (Settings.Template.reportable_expand _ _ host).passed failed
    · split
      · exact reportable_workingText host
      · exact reportable_ok _
  · exact reportable_error rfl
  · exact reportable_error rfl

theorem reportable_climb {lister : Lister} (lists : ∀ path, Reportable (lister path))
    (boundary start current : Text) :
    Reportable (climb lister boundary start current).outcome := by
  fun_induction climb lister boundary start current with
  | case1 current failure failed escaping => exact (lists current).passed failed
  | case2 => exact reportable_error rfl
  | case3 => exact reportable_ok _
  | case4 => exact reportable_error rfl
  | case5 _ _ _ _ _ _ inductionHypothesis => exact inductionHypothesis
  | case6 => exact reportable_error rfl

theorem reportable_locate (settings : Settings.Store) (file : Option Text)
    (workspaceFolder : Option Text) (host : Host) :
    Reportable
      (locate (fun path => host.list path) settings file workspaceFolder host).outcome := by
  unfold locate
  split
  next failed => exact (reportable_boundary settings workspaceFolder host).passed failed
  · split
    · exact reportable_ok _
    · exact reportable_ok _
    · split
      next failed => exact ((reportable_absolute _ host).map _).passed failed
      · unfold searchCanonical
        split
        next failed => exact (reportable_canonical _ host).passed failed
        · split
          next failed => exact (reportable_canonical _ host).passed failed
          · exact reportable_climb (fun path => reportable_list path host) _ _ _

theorem quiet_ofFile (settings : Settings.Store) (file : Text) (workspaceFolder : Option Text) :
    Quiet id (ofFile settings file workspaceFolder) := by
  refine Quiet.look_bind fun host => ?_
  refine Quiet.bind (Quiet.change fun _ => rfl) fun _ => ?_
  exact Quiet.ofExcept (reportable_locate settings (some file) workspaceFolder host)

end ModuleRoot

/-! ### The `cue` program -/

namespace Cue

theorem reportable_argumentStrings (position : Nat) (arguments : List Settings.Value) :
    Reportable (argumentStrings position arguments) := by
  fun_induction argumentStrings position arguments with
  | case1 => exact reportable_ok []
  | case2 _ _ _ inductionHypothesis | case3 _ _ _ inductionHypothesis =>
      exact inductionHypothesis.map _
  | case4 => exact reportable_error rfl

theorem reportable_argumentTexts (strings : List Settings.Key) :
    Reportable (argumentTexts strings) := by
  fun_induction argumentTexts strings with
  | case1 => exact reportable_ok []
  | case2 _ _ inductionHypothesis => exact inductionHypothesis.map _
  | case3 => exact reportable_error rfl

theorem starts_run (cue : Cue) (word : Text) (arguments : List Settings.Value)
    (directory : Option Text) :
    Starts id (Does word) (cue.run (.array (.text word :: arguments)) directory) := by
  unfold run
  cases cue.usable with
  | none => exact Starts.of_quiet (Quiet.fail rfl)
  | some program =>
      have reportable := reportable_argumentStrings 1 arguments
      dsimp only
      rw [Settings.Value.spread, Settings.Value.items?, ofExcept_bind_ok, argumentStrings]
      cases told : argumentStrings (0 + 1) arguments with
      | error failure => exact Starts.of_quiet (Quiet.fail (reportable failure told))
      | ok strings =>
          rw [Except.map, ofExcept_bind_ok]
          refine Starts.after_quiet (quiet_log _ _) fun _ => ?_
          rw [argumentTexts]
          cases written : argumentTexts strings with
          | error failure =>
              exact Starts.of_quiet (Quiet.fail (reportable_argumentTexts strings failure written))
          | ok texts =>
              rw [Except.map, ofExcept_bind_ok]
              refine Starts.rescue ?_ (fun failure => Keeps.fail _) fun failure ordinary => ?_
              · refine (starts_spawn (program :: word :: texts) directory).mono ?_
                rintro command rfl
                rfl
              · refine Quiet.fail ?_
                unfold missing
                split
                · rfl
                · exact ordinary

/-- Checking the code of a process that was run starts no other. -/
theorem starts_runChecked (cue : Cue) (word : Text) (arguments : List Settings.Value)
    (directory : Option Text) :
    Starts id (Does word) (cue.runChecked (.text word :: arguments) directory) := by
  refine Starts.before_quiet (cue.starts_run word arguments directory) fun result => ?_
  exact Quiet.ite (Quiet.pure result) (Quiet.fail rfl)

theorem starts_vet (cue : Cue) (file : Text) (flags : Settings.Value) (directory : Option Text) :
    Starts id (Does "vet") (cue.vet file flags directory) := by
  refine Starts.after_quiet (Quiet.ofExcept flags.reportable_spread) fun items => ?_
  exact cue.starts_run "vet" _ directory

theorem starts_fmt (cue : Cue) (file : Text) (directory : Option Text) :
    Starts id (Does "fmt") (cue.fmt file directory) :=
  cue.starts_runChecked "fmt" _ directory

theorem starts_eval (cue : Cue) (file : Text) (expressions outType : Settings.Value)
    (directory : Option Text) :
    Starts id (Does "eval") (cue.eval file expressions outType directory) := by
  unfold eval
  cases OutType.ofValue? outType with
  | none => exact Starts.of_quiet (Quiet.fail rfl)
  | some format =>
      refine Starts.after_quiet (Quiet.ofExcept expressions.reportable_items) fun items => ?_
      refine Starts.before_quiet ?_ fun result => Quiet.pure result.stdout
      exact cue.starts_runChecked "eval" _ directory

end Cue

/-! ### Scratch directories -/

theorem Scratch.quiet_allocate (scratch : Scratch) (start : Text) :
    Quiet id (scratch.allocate start) := by
  refine Quiet.bind (Quiet.look _) fun isThere => ?_
  split
  · exact quiet_makeTemporary start scratch.root
  · exact Quiet.bind (quiet_makeTree true scratch.root) fun _ =>
      quiet_makeTemporary start scratch.root

theorem Scratch.quiet_cleanup (scratch : Scratch) : Quiet id scratch.cleanup := by
  refine Quiet.bind (Quiet.require (reportable_isPresent scratch.root)) fun isThere => ?_
  refine Quiet.ite (Quiet.bind (Quiet.change fun host => ?_) fun _ => quiet_log _ _) (Quiet.pure ())
  exact processes_removeTree scratch.root host

/-! ### Commands -/

namespace Session

variable {α : Type} {kind : CueWatch.Command → Prop}

theorem quiet_onHost {step : Attempt Host α} (quiet : Quiet id step) :
    Quiet Session.host (onHost step) :=
  ⟨fun session => quiet.kept session.host, fun session => quiet.reportable session.host⟩

theorem starts_onHost {step : Attempt Host α} (starts : Starts id kind step) :
    Starts Session.host kind (onHost step) :=
  ⟨fun session => starts.spawned session.host, fun session => starts.outcomes session.host,
    fun session => starts.reportable session.host⟩

theorem quiet_updateState (change : State → State) :
    Quiet Session.host (updateState change) := Quiet.change fun _ => rfl

theorem quiet_report (action : Action) (failure : Failure) :
    Quiet Session.host (report action failure) :=
  Quiet.bind (quiet_updateState _) fun _ => quiet_onHost (quiet_log _ _)

/-- Reporting, and telling the listener, start no process. -/
theorem starts_perform (action : Action) (otherwise : α) {body : Attempt Session α}
    (starts : Starts Session.host kind body) :
    Starts Session.host kind (perform action otherwise body) := by
  refine Starts.after_quiet (quiet_updateState _) fun _ => ?_
  refine Starts.before_quiet (Starts.rescue starts (fun failure => ?_) fun failure ordinary => ?_)
    fun result => ?_
  · refine Keeps.ite (Keeps.fail failure) ?_
    exact Keeps.bind (quiet_report action failure).kept fun _ => Keeps.pure otherwise
  · refine Quiet.ite (Quiet.fail ordinary) ?_
    exact Quiet.bind (quiet_report action failure) fun _ => Quiet.pure otherwise
  · exact Quiet.bind (Quiet.change fun _ => rfl) fun _ => Quiet.pure result

theorem quiet_reloadSource : Quiet Session.host reloadSource := by
  refine Quiet.bind (Quiet.require fun session => ?_) fun text => quiet_updateState _
  exact reportable_readText session.source session.host

theorem starts_formatBody : Starts Session.host (Cue.Does "fmt") formatBody := by
  refine Starts.after_quiet (Quiet.look id) fun session => ?_
  refine Starts.before_quiet (starts_onHost (session.cue.starts_fmt _ _)) fun _ => ?_
  exact Quiet.bind quiet_reloadSource fun _ => quiet_updateState _

theorem quiet_findModuleRoot : Quiet Session.host findModuleRoot := by
  refine Quiet.bind (Quiet.look id) fun session => ?_
  refine Quiet.bind (quiet_onHost (ModuleRoot.quiet_ofFile _ _ _)) fun root => ?_
  exact Quiet.bind (quiet_updateState _) fun _ => Quiet.pure root

theorem quiet_digest (report : Text) : Quiet Session.host (digest report) := by
  refine Quiet.bind (Quiet.ofExcept (Report.reportable_parse report)) fun diagnostics => ?_
  refine Quiet.bind (Quiet.look _) fun source => ?_
  refine Quiet.bind (Quiet.bind (Quiet.require fun session => ?_) fun published => ?_) fun _ =>
    quiet_updateState _
  · exact (reportable_canonical source session.host).map _
  · exact Quiet.change fun _ => rfl

theorem starts_lintBody : Starts Session.host (Cue.Does "vet") lintBody := by
  refine Starts.before_quiet ?_ fun result => quiet_digest result.stderr
  refine Starts.after_quiet quiet_findModuleRoot fun root => ?_
  refine Starts.after_quiet (Quiet.look id) fun session => ?_
  refine Starts.before_quiet (starts_onHost (session.cue.starts_vet _ _ _)) fun result => ?_
  exact Quiet.bind (quiet_onHost (quiet_log _ _)) fun _ => Quiet.pure result

theorem starts_evaluateBody (expressions outType : Settings.Value) :
    Starts Session.host (Cue.Does "eval") (evaluateBody expressions outType) := by
  refine Starts.after_quiet (Quiet.require fun session => ?_) fun directory => ?_
  · exact ModuleRoot.reportable_boundary _ _ session.host
  refine Starts.after_quiet (Quiet.ofExcept expressions.reportable_items) fun items => ?_
  refine Starts.after_quiet (Quiet.look id) fun session => ?_
  refine Starts.before_quiet (starts_onHost (session.cue.starts_eval _ _ _ _)) fun output => ?_
  refine Quiet.bind (quiet_onHost (session.scratch.quiet_allocate _)) fun place => ?_
  refine Quiet.bind (Quiet.ofExcept (OutType.reportable_ofValue outType)) fun format => ?_
  refine Quiet.bind (quiet_onHost (quiet_writeText _ _)) fun _ => ?_
  exact Quiet.bind (quiet_updateState _) fun _ => Quiet.pure _

/-- The word by which the process of a command is told from others. -/
def Command.word : Command → Text
  | .lint => "vet"
  | .evaluate _ _ => "eval"
  | .format => "fmt"

/-- A command starts at most one process, its own, and only that one can be interrupted. -/
theorem starts_command (command : Command) :
    Starts Session.host (Cue.Does command.word) command.perform := by
  cases command with
  | lint =>
      refine Starts.after_quiet (Quiet.look id) fun session => ?_
      refine Starts.after_quiet (quiet_onHost (quiet_log _ _)) fun _ => ?_
      exact starts_perform .lint () starts_lintBody
  | evaluate expressions outType =>
      refine Starts.before_quiet ?_ fun _ => Quiet.pure ()
      refine Starts.after_quiet (Quiet.look _) fun chosen => ?_
      exact starts_perform .evaluate none (starts_evaluateBody expressions chosen)
  | format => exact starts_perform .format () starts_formatBody

end Session

end CueWatch
