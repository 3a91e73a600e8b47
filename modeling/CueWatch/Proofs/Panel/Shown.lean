import CueWatch.Panel.App
import CueWatch.Panel.Markup.Balance
import CueWatch.Proofs.Session.Telling

/-!
Contract: a mounted panel shows the state of its session.

Owns:
- `App.Run`, the panels that a new session leads to: mounted, and then used, called back and told in
  any order;
- `App.Shows`, what a panel shows of its session, and `App.Faithful`, the invariant that makes it do
  so whenever no notice is waiting;
- that what the user does, and what happens to files, leaves the panes as they were and tells of
  every change of the display.

Does not own: how the session tells (`Proofs.Session.Telling`).
-/

namespace CueWatch.Panel.App

open Attempt Session

/-- Deals with one notice of the session. -/
def heed (app : App) : App := { (refresh.run app).2 with seen := app.seen + 1 }

/-- What happens next to a mounted panel. The user may do anything, and whatever fails, the panel may
go on; only an interruption of a callback ends it. At any time others may change the host: its files,
and what the next processes do. -/
inductive Next : App → App → Prop
  | acts (act : Act) (app : App) : Next app ((handle act).run app).2
  | happens (event : Watch.FileEvent) {app : App}
      (goesOn : ∀ failure, ((receive event).run app).1 = .error failure → ¬ Interrupts failure) :
      Next app ((receive event).run app).2
  | saves (path : Text) {app : App}
      (goesOn : ∀ failure, ((onSession (Session.saved path)).run app).1 = .error failure →
        ¬ Interrupts failure) :
      Next app ((onSession (Session.saved path)).run app).2
  | heeds {app : App} (waiting : app.seen < app.session.notices) : Next app app.heed
  | settles (app : App) : Next app (settle.run app).2
  | disturbed (host : Host) (app : App) :
      Next app { app with session := { app.session with host := host } }

/-- The panels that a new session leads to once one is mounted on it. -/
inductive Run (first : Session) : App → Prop
  | mounted (reading : Text → Except Failure Unit) (host : Host) {app : App}
      (ran : mount.run (ofSession reading { first with host := host }) = (.ok (), app)) :
      Run first app
  | next {app later : App} (earlier : Run first app) (step : Next app later) : Run first later

/-- A panel shows the state of its session: the number of findings in the bar and, once a notice has
been dealt with, the findings themselves and whether there is a result. -/
structure Shows (app : App) : Prop where
  errors : app.bar.errors = app.session.state.diagnostics.length
  findings : 0 < app.seen → app.findings =
    some (Findings.render app.session.state.diagnostics app.session.state.sourceLines)
  output : 0 < app.seen →
    (app.output.isSome = true ↔ app.session.state.evalFile.isSome = true)

/-- A panel listens to its session, and shows its state unless a notice is waiting. -/
structure Faithful (app : App) : Prop where
  listens : app.session.hasListener = true
  seen_le : app.seen ≤ app.session.notices
  hasResult : app.output.isSome = true → app.session.state.evalFile.isSome = true
  shows : app.seen = app.session.notices → Shows app

/-! ### What the user does -/

/-- The number of errors in the bar, the panes, and how many notices have been dealt with. -/
def panes (app : App) : Int × Option Styled × Option Styled × Nat :=
  (app.bar.errors, app.findings, app.output, app.seen)

/-- The panes are as they were, and the session has told of what is seen to have changed. -/
structure Leaves {γ : Type} (see : Display → γ) (later app : App) : Prop where
  panes : later.panes = app.panes
  told : Told see later.session app.session

section

variable {α γ : Type} {see : Display → γ}

theorem chains_leaves : Chains (Leaves see) where
  refl := fun app => ⟨rfl, chains_told.refl app.session⟩
  trans := fun last first =>
    ⟨last.panes.trans first.panes, chains_told.trans last.told first.told⟩

theorem leaves_onSession {step : Attempt Session α} (told : Moves (Told see) step) :
    Moves (Leaves see) (onSession step) := fun app => ⟨rfl, told app.session⟩

theorem leaves_prompt (prompt : App → Option Prompt) :
    Moves (Leaves see) (Attempt.change fun app => { app with prompt := prompt app }) :=
  fun app => ⟨rfl, chains_told.refl app.session⟩

theorem leaves_changeBar {change : StatusBar.Change} (silent : change.errors = none) :
    Moves (Leaves see) (changeBar change) := by
  refine chains_leaves.bind (fun app => ⟨?_, chains_told.refl app.session⟩) fun _ =>
    chains_leaves.require _
  have kept : (app.bar.apply change).errors = app.bar.errors := by
    rw [StatusBar.apply, silent, Option.getD_none]
  exact congrArg (fun errors => (errors, app.findings, app.output, app.seen)) kept

theorem leaves_showStatus (status : Text) : Moves (Leaves see) (showStatus status) :=
  leaves_changeBar rfl

theorem leaves_runCommand {command : Attempt Session α} (told : Moves (Told see) command) :
    Moves (Leaves see) (runCommand command) := by
  refine chains_leaves.rescue ?_ fun failure => ?_
  · exact chains_leaves.bind (leaves_onSession told) fun _ => chains_leaves.pure ()
  · exact Moves.ite (leaves_showStatus _) (chains_leaves.fail failure)

theorem leaves_cycleOutType : Moves (Leaves see) cycleOutType := by
  refine chains_leaves.bind (chains_leaves.look _) fun current => ?_
  refine chains_leaves.bind (chains_leaves.ofExcept _) fun format => ?_
  refine chains_leaves.bind (leaves_onSession (told_setOutType _)) fun _ => ?_
  exact leaves_showStatus _

theorem leaves_submitted (purpose : Purpose) (value : Text) :
    Moves (Leaves see) (submitted purpose value) := by
  cases purpose with
  | flags =>
      refine chains_leaves.bind (leaves_changeBar rfl) fun _ => ?_
      exact leaves_runCommand (told_setFlags _)
  | expression =>
      exact Moves.ite (leaves_showStatus _) (leaves_runCommand (told_evaluate _ _))

theorem leaves_handle (act : Act) : Moves (Leaves see) (handle act) := by
  cases act with
  | relint => exact leaves_runCommand told_lint
  | eval => exact leaves_runCommand (told_evaluate _ _)
  | evalExpression => exact leaves_prompt _
  | cycleOutType => exact leaves_cycleOutType
  | format => exact leaves_runCommand told_format
  | editFlags =>
      refine chains_leaves.bind (chains_leaves.look _) fun session => ?_
      exact chains_leaves.bind (chains_leaves.ofExcept _) fun flags => leaves_prompt _
  | toggleLintOnSave =>
      refine chains_leaves.bind (chains_leaves.look _) fun enabled => ?_
      exact leaves_onSession (told_setLintOnSave _)
  | dismiss => exact leaves_prompt _
  | submit value =>
      refine chains_leaves.bind (chains_leaves.look _) fun prompt => ?_
      refine chains_leaves.bind (leaves_prompt _) fun _ => ?_
      cases prompt with
      | some prompt => exact leaves_submitted prompt.purpose value
      | none => exact chains_leaves.pure ()

/-- A mount is told of, but for the text that its start reads. -/
theorem leaves_mount
    (blind : ∀ display text, see { display with sourceCode := text } = see display) :
    Moves (Leaves see) mount := by
  refine chains_leaves.bind (chains_leaves.look _) fun session => ?_
  refine chains_leaves.bind (chains_leaves.ofExcept _) fun flags => ?_
  refine chains_leaves.bind (leaves_changeBar rfl) fun _ => ?_
  exact leaves_runCommand (told_start blind)

end

/-! ### The invariant -/

/-- A refreshed panel shows the state of its session, however many notices count as dealt with. -/
theorem shows_refresh {app : App}
    (hasResult : app.output.isSome = true → app.session.state.evalFile.isSome = true) (seen : Nat) :
    Shows { (refresh.run app).2 with seen := seen } where
  errors := rfl
  findings := fun _ => rfl
  output := by
    intro _
    change ((refreshPanes app).output.isSome = true ↔ app.session.state.evalFile.isSome = true)
    rw [refreshPanes]
    dsimp only
    split
    next isSome => simp [isSome]
    next isNone =>
      exact ⟨fun shown => absurd (hasResult shown) isNone, fun isSome => absurd isSome isNone⟩

theorem hasResult_refresh {app : App}
    (hasResult : app.output.isSome = true → app.session.state.evalFile.isSome = true) :
    (refresh.run app).2.output.isSome = true → app.session.state.evalFile.isSome = true :=
  ((shows_refresh hasResult 1).output Nat.one_pos).mp

/-- A panel settles only if a notice is waiting. If its bar cannot be shown, the notice stays
waiting. -/
theorem settle_cases (app : App) :
    (¬ app.seen < app.session.notices ∧ (settle.run app).2 = app) ∨
    (app.seen < app.session.notices ∧
      ((settle.run app).2 = (refresh.run app).2 ∨
        (settle.run app).2 = { (refresh.run app).2 with seen := app.session.notices })) := by
  rw [settle, run_bind_of_ok (run_look id app)]
  by_cases waiting : app.seen < app.session.notices
  · refine .inr ⟨waiting, ?_⟩
    have refreshed : (refresh.run app).2.session = app.session := rfl
    rw [if_pos (show (id app).seen < (id app).session.notices from waiting)]
    rcases ran : refresh.run app with ⟨failure | _, reached⟩
    · exact .inl (congrArg Prod.snd (run_bind_of_error ran))
    · right
      rw [run_bind_of_ok ran, run_change, ← refreshed, ran]
  · refine .inl ⟨waiting, ?_⟩
    rw [if_neg (show ¬ (id app).seen < (id app).session.notices from waiting)]
    rfl

namespace Faithful

variable {app later : App}

theorem heeds (faithful : Faithful app) (waiting : app.seen < app.session.notices) :
    Faithful app.heed where
  listens := faithful.listens
  seen_le := waiting
  hasResult := hasResult_refresh faithful.hasResult
  shows := fun _ => shows_refresh faithful.hasResult (app.seen + 1)

theorem settles (faithful : Faithful app) : Faithful (settle.run app).2 := by
  rcases settle_cases app with ⟨-, idle⟩ | ⟨waiting, stuck | shown⟩
  · rw [idle]
    exact faithful
  · rw [stuck]
    exact ⟨faithful.listens, faithful.seen_le, hasResult_refresh faithful.hasResult,
      fun settled => absurd waiting settled.not_lt⟩
  · rw [shown]
    exact ⟨faithful.listens, le_rfl, hasResult_refresh faithful.hasResult,
      fun _ => shows_refresh faithful.hasResult app.session.notices⟩

/-- If the panes are left as they were and every change is told of, no notice is waiting only if
nothing has changed. -/
theorem leaves (faithful : Faithful app) (left : Leaves id later app) : Faithful later := by
  have sameSeen : later.seen = app.seen := congrArg (fun panes => panes.2.2.2) left.panes
  have sameOutput : later.output = app.output := congrArg (fun panes => panes.2.2.1) left.panes
  refine ⟨left.told.listens.trans faithful.listens, ?_, ?_, fun settled => ?_⟩
  · rw [sameSeen]
    exact faithful.seen_le.trans (left.told.notices_le faithful.listens)
  · rw [sameOutput]
    exact fun shown => left.told.retains (faithful.hasResult shown)
  · rcases left.told.tells faithful.listens with ⟨sameDisplay, sameNotices⟩ | more
    · have shows := faithful.shows (sameSeen.symm.trans (settled.trans sameNotices))
      have sameErrors : later.bar.errors = app.bar.errors := congrArg Prod.fst left.panes
      have sameFindings : later.findings = app.findings :=
        congrArg (fun panes => panes.2.1) left.panes
      have diagnostics : later.session.state.diagnostics = app.session.state.diagnostics :=
        congrArg Display.diagnostics sameDisplay
      have source : later.session.state.sourceCode = app.session.state.sourceCode :=
        congrArg Display.sourceCode sameDisplay
      have file : later.session.state.evalFile = app.session.state.evalFile :=
        congrArg Display.evalFile sameDisplay
      refine ⟨?_, fun dealt => ?_, fun dealt => ?_⟩
      · rw [sameErrors, diagnostics]
        exact shows.errors
      · rw [sameFindings, Session.State.sourceLines, diagnostics, source]
        exact shows.findings (sameSeen ▸ dealt)
      · rw [sameOutput, file]
        exact shows.output (sameSeen ▸ dealt)
    · have behind := faithful.seen_le
      omega

end Faithful

/-- What happens next leaves the panes as they were and tells of every change, or shows the
session. -/
theorem Next.leaves_or_shows {app later : App} (step : Next app later) :
    Leaves id later app ∨
      later.session = app.session ∧ (Faithful app → Faithful later) := by
  cases step with
  | acts act => exact .inl (leaves_handle act app)
  | happens event goesOn => exact .inl ⟨rfl, told_receive event app.session goesOn⟩
  | saves path goesOn => exact .inl ⟨rfl, told_saved path app.session goesOn⟩
  | heeds waiting => exact .inr ⟨rfl, fun faithful => faithful.heeds waiting⟩
  | settles =>
      refine .inr ⟨?_, Faithful.settles⟩
      rcases settle_cases app with ⟨-, same⟩ | ⟨-, same | same⟩ <;> rw [same] <;> rfl
  | disturbed host => exact .inl ⟨rfl, told_of_shown rfl⟩

theorem Faithful.next {app later : App} (faithful : Faithful app) (step : Next app later) :
    Faithful later := by
  rcases step.leaves_or_shows with left | ⟨-, shows⟩
  · exact faithful.leaves left
  · exact shows faithful

/-- A panel that is mounted on a new session shows that there are no findings yet, or is about to be
told of them. -/
theorem faithful_of_mounted {session : Session} (new : IsNew session)
    (reading : Text → Except Failure Unit) (host : Host) :
    Faithful (mount.run (ofSession reading { session with host := host })).2 := by
  obtain ⟨-, -, unheard, flags, outType, known⟩ := new.exists_of_create
  let see (display : Display) : List Diagnostic × Option Text :=
    (display.diagnostics, display.evalFile)
  have left : Leaves see (mount.run (ofSession reading { session with host := host })).2 _ :=
    leaves_mount (fun _ _ => rfl) _
  generalize (mount.run (ofSession reading { session with host := host })).2 = app at left ⊢
  obtain ⟨samePanes, told⟩ := left
  have seen : app.seen = 0 := (congrArg (fun panes => panes.2.2.2) samePanes).trans unheard
  have hidden : app.output = none := congrArg (fun panes => panes.2.2.1) samePanes
  refine ⟨told.listens, ?_, ?_, fun settled => ⟨?_, ?_, ?_⟩⟩
  · rw [seen]
    exact Nat.zero_le _
  · rw [hidden]
    exact nofun
  · rcases told.tells rfl with ⟨sameDisplay, -⟩ | more
    · have none : app.session.state.diagnostics = session.state.diagnostics :=
        congrArg Prod.fst sameDisplay
      have errors : app.bar.errors = 0 := congrArg Prod.fst samePanes
      rw [errors, none, known]
      rfl
    · rw [← settled, seen] at more
      exact absurd more (Nat.not_lt_zero _)
  · rw [seen]
    exact nofun
  · rw [seen]
    exact nofun

theorem faithful_of_run {first : Session} {app : App} (new : IsNew first) (run : Run first app) :
    Faithful app := by
  induction run with
  | mounted reading host ran =>
      have faithful := faithful_of_mounted new reading host
      rwa [ran] at faithful
  | next earlier step inductionHypothesis => exact inductionHypothesis.next step

/-- Whatever happens to a panel that is mounted on a new session: whenever no notice is waiting, the
panel shows the state of the session; and whenever the findings, the source text or the file of the
result change, a notice is posted. -/
theorem shows_session {first : Session} {app : App} (new : IsNew first) (run : Run first app) :
    (app.seen = app.session.notices → Shows app) ∧
    ∀ later, Next app later → later.session.display ≠ app.session.display →
      app.session.notices < later.session.notices := by
  have faithful := faithful_of_run new run
  refine ⟨faithful.shows, fun later step changed => ?_⟩
  rcases step.leaves_or_shows with left | ⟨same, -⟩
  · rcases left.told.tells faithful.listens with ⟨sameDisplay, -⟩ | more
    · exact absurd sameDisplay changed
    · exact more
  · exact absurd (congrArg Session.display same) changed

/-- A host on which a lint finds a reference that is not resolved, and an evaluation prints. -/
def reportingHost : Host :=
  { unresolvedSession.host with
    outcomes := [⟨[], none, ⟨[], unresolvedReport, 1⟩⟩, ⟨[], none, ⟨"x: 1", [], 0⟩⟩] }

/-- The panel before it is mounted there. -/
def unmountedApp : App :=
  ofSession Markup.check { unresolvedSession with host := reportingHost }

/-- The panel that is mounted there. -/
def mountedApp : App := (mount.run unmountedApp).2

/-- The panel when it has been told of the lint at its start. -/
def lintedApp : App := (settle.run mountedApp).2

/-- The panel when the user has asked for an evaluation, before it is told of the result. -/
def evaluatedApp : App := ((handle .eval).run lintedApp).2

theorem run_lintedApp : Run unresolvedSession lintedApp := by
  have mounts : (mount.run unmountedApp).1.isOk = true := by decide +kernel
  rcases ran : mount.run unmountedApp with ⟨failure | _, app⟩
  · rw [ran] at mounts
    cases mounts
  · have isMounted : mountedApp = app := congrArg Prod.snd ran
    rw [lintedApp, isMounted]
    exact (Run.mounted Markup.check reportingHost ran).next (.settles app)

theorem display_ne_of_evalFile {later session : Session}
    (differ : later.state.evalFile ≠ session.state.evalFile) : later.display ≠ session.display :=
  fun same => differ (congrArg Display.evalFile same)

theorem finding_and_result_shown :
    Run unresolvedSession lintedApp ∧ lintedApp.seen = lintedApp.session.notices ∧
    Shows lintedApp ∧ lintedApp.bar.errors = 1 ∧ 0 < lintedApp.seen ∧
    evaluatedApp.session.display ≠ lintedApp.session.display ∧
    lintedApp.session.notices < evaluatedApp.session.notices := by
  have new : IsNew unresolvedSession := ⟨_, _, _, _, create_unresolvedSession⟩
  have settled : lintedApp.seen = lintedApp.session.notices := by decide +kernel
  have changed : evaluatedApp.session.display ≠ lintedApp.session.display :=
    display_ne_of_evalFile (by decide +kernel)
  obtain ⟨shows, tells⟩ := shows_session new run_lintedApp
  exact ⟨run_lintedApp, settled, shows settled, by decide +kernel, by decide +kernel, changed,
    tells evaluatedApp (.acts .eval lintedApp) changed⟩

end CueWatch.Panel.App
