import CueWatch.Proofs.Session.Command

/-!
Contract: what is asked of a session, one request after another.

Owns:
- `Request`, the operations that users and the watcher ask for;
- `lintedFrom?`, where a request begins a lint, and the report of the lint if it succeeds;
- `BoardStep`, what a request can do to the board;
- `IgnoresLints`, the views that see nothing of what requests change other than evaluations and
  changes of the output type.

Does not own: runs of several requests.
-/

namespace CueWatch.Session

open Attempt

/-! ### Requests -/

/-- What is asked of a session. -/
inductive Request where
  | start
  | stop
  | lint
  | evaluate (expressions outType : Settings.Value)
  | format
  | reloadSource
  | setOutType (outType : Settings.Value)
  | setLintOnSave (enabled : Settings.Value)
  | setFlags (flags : Settings.Value)
  | saved (path : Text)

/-- Does what is asked. -/
def Request.perform : Request → Attempt Session Unit
  | .start => Session.start
  | .stop => Session.stop
  | .lint => Session.lint
  | .evaluate expressions outType => do
      let _ ← Session.evaluate expressions outType
  | .format => Session.format
  | .reloadSource => Session.reloadSource
  | .setOutType outType => Session.setOutType outType
  | .setLintOnSave enabled => Session.setLintOnSave enabled
  | .setFlags flags => Session.setFlags flags
  | .saved path => Session.saved path

/-- The session in which a lint on save begins: the file has been read, and the settings ask for
it. -/
def reloadedForLint? (session : Session) : Option Session :=
  match Session.reloadSource.run session with
  | (.ok _, reached) => if reached.settings.lintOnSave then some reached else none
  | (.error _, _) => none

/-- The session after a save has been noted. -/
def notedSave (path : Text) (session : Session) : Session :=
  { session with
    host := ((Host.log .debug ("save detected for " ++ path)).run session.host).2 }

/-- The session in which a request begins a lint, if it does. -/
def Request.lintedFrom? : Request → Session → Option Session
  | .lint, session => some session
  | .start, session => session.reloadedForLint?
  | .saved path, session => (session.notedSave path).reloadedForLint?
  | .setFlags flags, session =>
      match (storeFlags flags).run session with
      | (.ok _, reached) => some reached
      | (.error _, _) => none
  | _, _ => none

/-- The report of the lint that a request makes, if it makes one that succeeds. -/
def Request.lintReport? (request : Request) (session : Session) : Option Text :=
  (request.lintedFrom? session).bind Session.lintReport?

/-- Whether a request is one after which the published findings are in step with the state: not
stopping, and new flags only if the lint that they begin succeeds. -/
def Request.StaysInStep (session : Session) : Request → Prop
  | .stop => False
  | .setFlags flags =>
      ∀ reached, (Request.setFlags flags).lintedFrom? session = some reached →
        reached.lintReport?.isSome
  | _ => True

theorem staysInStep_setFlags {flags : Settings.Value} {session : Session} {report : Text}
    (successful : (Request.setFlags flags).lintReport? session = some report) :
    (Request.setFlags flags).StaysInStep session := by
  intro reached begun
  rw [Request.lintReport?, begun, Option.bind_some] at successful
  rw [successful]
  rfl

/-! ### What a request does to the board -/

/-- What can happen to the board on the way to a session, with the report of the lint if there is
one that succeeds. -/
inductive BoardStep (before : Board) (reached : Session) : Option Text → Prop
  | kept (same : reached.board = before) : BoardStep before reached none
  | withdrawn (same : reached.board = { before with published := .empty, diagnostics := [] }) :
      BoardStep before reached none
  | linted {report key : Text} {diagnostics : List Diagnostic} {published : Collection}
      (onto : published = before.published ∨ published = .empty)
      (read : Report.parse report = .ok diagnostics) (placed : reached.place = .ok key)
      (same : reached.board =
        ⟨before.source, ⟨Keyed.put key diagnostics published.entries⟩, diagnostics, report⟩) :
      BoardStep before reached (some report)

/-- Only the board and the place of the session reached count. -/
theorem BoardStep.of_same {before : Board} {reached last : Session} {report? : Option Text}
    (stepped : BoardStep before reached report?)
    (same : last.placedBoard = reached.placedBoard) :
    BoardStep before last report? := by
  have sameBoard : last.board = reached.board := congrArg Prod.fst same
  have samePlace : last.place = reached.place := congrArg Prod.snd same
  cases stepped with
  | kept kept => exact .kept (sameBoard.trans kept)
  | withdrawn emptied => exact .withdrawn (sameBoard.trans emptied)
  | linted onto read placed published =>
      exact .linted onto read (samePlace.trans placed) (sameBoard.trans published)

theorem boardStep_of_keeps {α : Type} {step : Attempt Session α} (kept : Keeps board step)
    (session : Session) : BoardStep session.board (step.run session).2 none :=
  .kept (kept session)

theorem boardStep_lint (session : Session) :
    BoardStep session.board (lint.run session).2 session.lintReport? := by
  cases successful : session.lintReport? with
  | none => exact .kept (board_lint_of_none successful)
  | some report =>
      obtain ⟨diagnostics, key, read, placed, same⟩ := board_lint_of_some successful
      exact .linted (.inl rfl) read placed same

/-! ### Reading, evaluating and formatting -/

theorem run_reloadSource_of_ok {session : Session} {text : Text}
    (read : session.host.readText session.source = .ok text) :
    reloadSource.run session = (.ok (), session.withSource text) := by
  have looked : (Attempt.require fun session : Session =>
      session.host.readText session.source).run session = (.ok text, session) :=
    congrArg (·, session) read
  rw [reloadSource, run_bind_of_ok looked]
  rfl

theorem run_reloadSource_of_error {session : Session} {failure : Failure}
    (unread : session.host.readText session.source = .error failure) :
    reloadSource.run session = (.error failure, session) := by
  have looked : (Attempt.require fun session : Session =>
      session.host.readText session.source).run session = (.error failure, session) :=
    congrArg (·, session) unread
  rw [reloadSource, run_bind_of_error looked]

theorem keeps_board_reloadSource : Keeps board reloadSource := by
  refine Keeps.bind (Keeps.require _) fun text => ?_
  exact keeps_updateState fun _ => rfl

theorem keeps_board_evaluate (expressions outType : Settings.Value) :
    Keeps board (evaluate expressions outType) := by
  refine Keeps.bind (Keeps.look _) fun chosen => ?_
  refine overlooks_board.keeps_perform .evaluate none ?_
  exact keeps_evaluateBody board_onHost (fun _ _ _ _ _ => rfl) expressions chosen

theorem keeps_board_format : Keeps board format :=
  overlooks_board.keeps_perform .format () (keeps_formatBody board_onHost fun _ _ _ => rfl)

theorem keeps_board_changeSetting (key : Text) (value : Settings.Value) :
    Keeps board (changeSetting key value) :=
  keeps_changeSetting board_onHost (fun _ _ => rfl) key value

/-! ### Saves and the start -/

section

variable {γ : Type} {view : Session → γ}

/-- What a save does beyond reading and linting is overlooked. -/
theorem Overlooks.view_saved (overlooks : Overlooks view) (path : Text) (session : Session) :
    view ((saved path).run session).2 = view (savedBody.run (session.notedSave path)).2 := by
  refine view_run_rescue savedBody (fun failure => ?_) (session.notedSave path)
  refine Keeps.ite ?_ (Keeps.ite ?_ (Keeps.fail failure))
  · exact Keeps.bind (overlooks.keeps_withStatus _) fun _ => overlooks.keeps_notify
  · exact Keeps.bind (overlooks.keeps_withStatus _) fun _ => overlooks.keeps_notify

/-- What the start does beyond reading and linting is overlooked by a view that does not see the
watcher. -/
theorem Overlooks.view_start (overlooks : Overlooks view)
    (watcherKept : ∀ session watcher, view { session with watcher := watcher } = view session)
    (session : Session) : view (Session.start.run session).2 = view (savedBody.run session).2 := by
  refine view_run_bind savedBody (fun _ => Keeps.bind (Keeps.look _) fun source => ?_) session
  refine Keeps.bind (Keeps.require _) fun registration => ?_
  refine Keeps.bind (Keeps.change fun session => watcherKept session _) fun _ => ?_
  refine Keeps.bind (Keeps.require _) fun launched => ?_
  refine Keeps.bind (Keeps.change fun session => watcherKept session _) fun _ => ?_
  exact overlooks.keeps_log _ _

end

/-- What a save and the start have in common does to the board what the lint on save does. -/
theorem boardStep_savedBody (session : Session) :
    BoardStep session.board (savedBody.run session).2
      (session.reloadedForLint?.bind Session.lintReport?) := by
  have reloadKept := keeps_board_reloadSource session
  rw [savedBody, reloadedForLint?, run_bind]
  rcases ran : reloadSource.run session with ⟨failure | _, reached⟩
  · rw [ran] at reloadKept
    exact .kept reloadKept
  · rw [ran] at reloadKept
    dsimp only at reloadKept ⊢
    rw [run_bind, run_look, ← reloadKept]
    dsimp only
    by_cases onSave : reached.settings.lintOnSave
    · rw [if_pos onSave, if_pos onSave]
      exact boardStep_lint reached
    · rw [if_neg onSave, if_neg onSave]
      exact .kept rfl

theorem boardStep_saved (path : Text) (session : Session) :
    BoardStep session.board ((saved path).run session).2
      ((Request.saved path).lintReport? session) :=
  (boardStep_savedBody (session.notedSave path)).of_same
    (overlooks_placedBoard.view_saved path session)

theorem boardStep_start (session : Session) :
    BoardStep session.board (Session.start.run session).2 (Request.start.lintReport? session) :=
  (boardStep_savedBody session).of_same
    (overlooks_placedBoard.view_start (fun _ _ => rfl) session)

/-! ### Settings -/

theorem boardStep_setLintOnSave (enabled : Settings.Value) (session : Session) :
    BoardStep session.board ((setLintOnSave enabled).run session).2 none := by
  have settingKept := keeps_board_changeSetting "lint_on_save" enabled session
  rw [setLintOnSave, run_bind]
  rcases ran : (changeSetting "lint_on_save" enabled).run session with ⟨failure | _, reached⟩
  · rw [ran] at settingKept
    exact .kept settingKept
  · rw [ran] at settingKept
    rw [← settingKept]
    exact .withdrawn rfl

/-- New flags are stored with all findings withdrawn, or the board is kept. -/
theorem storeFlags_cases (flags : Settings.Value) (session : Session) :
    (∃ failure reached, (storeFlags flags).run session = (.error failure, reached) ∧
      reached.board = session.board) ∨
    ∃ reached, (storeFlags flags).run session = (.ok (), reached) ∧
      reached.board = { session.board with published := .empty } := by
  cases listed : flags.items with
  | error failure =>
      refine .inl ⟨failure, session, ?_, rfl⟩
      rw [storeFlags, run_bind, run_ofExcept, listed]
  | ok items =>
      let flagged : Session :=
        { session with
          lintFlags := .array items
          state := { session.state with lintFlags := items } }
      have begins : (storeFlags flags).run session =
          (changeSetting "lint_flags" (.array items) >>= fun _ => withdrawAll).run flagged := by
        rw [storeFlags, run_bind, run_ofExcept, listed]
        rfl
      have settingKept := keeps_board_changeSetting "lint_flags" (.array items) flagged
      rcases ran : (changeSetting "lint_flags" (.array items)).run flagged with
        ⟨failure | _, reached⟩
      · rw [ran] at settingKept
        exact .inl ⟨failure, reached, begins.trans (run_bind_of_error ran), settingKept⟩
      · rw [ran] at settingKept
        refine .inr ⟨{ reached with published := .empty }, ?_, ?_⟩
        · exact begins.trans (run_bind_of_ok ran)
        · exact congrArg (fun board => { board with published := .empty }) settingKept

theorem boardStep_setFlags (flags : Settings.Value) (session : Session)
    (inStep : (Request.setFlags flags).StaysInStep session) :
    BoardStep session.board ((setFlags flags).run session).2
      ((Request.setFlags flags).lintReport? session) := by
  rw [Request.StaysInStep] at inStep
  rw [Request.lintReport?]
  rw [Request.lintedFrom?] at inStep ⊢
  rcases storeFlags_cases flags session with
    ⟨failure, reached, ran, same⟩ | ⟨reached, ran, same⟩
  · rw [ran, setFlags, run_bind_of_error ran]
    exact .kept same
  · rw [ran] at inStep ⊢
    rw [setFlags, run_bind_of_ok ran]
    obtain ⟨report, successful⟩ := Option.isSome_iff_exists.mp (inStep reached rfl)
    obtain ⟨diagnostics, key, read, placed, linted⟩ := board_lint_of_some successful
    have published : reached.published = .empty := congrArg Board.published same
    have source : reached.source = session.source := congrArg Board.source same
    dsimp only
    rw [Option.bind_some, successful]
    rw [published, source] at linted
    exact .linted (.inr rfl) read placed linted

/-! ### Every request -/

/-- What a request does to the board: it keeps it, it withdraws all findings, or it publishes what
the report of its lint says. -/
theorem boardStep_perform (request : Request) (session : Session)
    (inStep : request.StaysInStep session) :
    BoardStep session.board (request.perform.run session).2 (request.lintReport? session) := by
  cases request with
  | start => exact boardStep_start session
  | stop => exact inStep.elim
  | lint => exact boardStep_lint session
  | evaluate expressions outType =>
      refine boardStep_of_keeps (Keeps.bind ?_ fun _ => Keeps.pure ()) session
      exact keeps_board_evaluate expressions outType
  | format => exact boardStep_of_keeps keeps_board_format session
  | reloadSource => exact boardStep_of_keeps keeps_board_reloadSource session
  | setOutType outType =>
      refine boardStep_of_keeps (Keeps.bind ?_ fun _ => ?_) session
      · exact keeps_updateState fun _ => rfl
      · exact keeps_board_changeSetting _ _
  | setLintOnSave enabled => exact boardStep_setLintOnSave enabled session
  | setFlags flags => exact boardStep_setFlags flags session inStep
  | saved path => exact boardStep_saved path session

/-! ### Requests that neither evaluate nor change the output type -/

/-- A view that sees nothing of what lints, formats, saves and settings change. -/
structure IgnoresLints {γ : Type} (view : Session → γ) : Prop where
  overlooks : Overlooks view
  host : ∀ session host, view { session with host := host } = view session
  settings : ∀ session settings, view { session with settings := settings } = view session
  flags : ∀ session flags, view { session with lintFlags := flags } = view session
  published : ∀ session published, view { session with published := published } = view session
  watcher : ∀ session watcher, view { session with watcher := watcher } = view session
  state : ∀ session source root report flags diagnostics status,
    view { session with
      state :=
        { session.state with
          sourceCode := source
          moduleRoot := root
          compilerOutput := report
          lintFlags := flags
          diagnostics := diagnostics
          statusMessage := status } } = view session

namespace IgnoresLints

variable {γ : Type} {view : Session → γ}

theorem keeps_reloadSource (ignores : IgnoresLints view) : Keeps view reloadSource := by
  refine Keeps.bind (Keeps.require _) fun text => keeps_updateState fun session => ?_
  exact ignores.state session text _ _ _ _ _

theorem keeps_lint (ignores : IgnoresLints view) : Keeps view lint := by
  refine Keeps.bind (Keeps.look id) fun session => ?_
  refine Keeps.bind (keeps_onHost ignores.host _) fun _ => ?_
  refine ignores.overlooks.keeps_perform .lint () (keeps_lintBody ignores.host ?_)
  intro session published root report diagnostics status
  have stated := ignores.state { session with published := published } session.state.sourceCode root
    report session.state.lintFlags diagnostics status
  exact stated.trans (ignores.published session published)

theorem keeps_savedBody (ignores : IgnoresLints view) : Keeps view savedBody := by
  refine Keeps.bind ignores.keeps_reloadSource fun _ => ?_
  refine Keeps.bind (Keeps.look _) fun onSave => ?_
  exact Keeps.ite ignores.keeps_lint ignores.overlooks.keeps_notify

theorem keeps_setting (ignores : IgnoresLints view) (key : Text) (value : Settings.Value) :
    Keeps view (changeSetting key value) :=
  keeps_changeSetting ignores.host ignores.settings key value

theorem keeps_withdrawAll (ignores : IgnoresLints view) : Keeps view withdrawAll :=
  Keeps.change fun session => ignores.published session .empty

theorem keeps_storeFlags (ignores : IgnoresLints view) (value : Settings.Value) :
    Keeps view (storeFlags value) := by
  refine Keeps.bind (Keeps.ofExcept _) fun flags => ?_
  refine Keeps.bind (Keeps.change fun session => ignores.flags session _) fun _ => ?_
  refine Keeps.bind (keeps_updateState fun session => ignores.state session _ _ _ flags _ _)
    fun _ => ?_
  exact Keeps.bind (ignores.keeps_setting _ _) fun _ => ignores.keeps_withdrawAll

theorem keeps_setLintOnSave (ignores : IgnoresLints view) (enabled : Settings.Value) :
    Keeps view (setLintOnSave enabled) := by
  refine Keeps.bind (ignores.keeps_setting _ _) fun _ => ?_
  refine Keeps.bind ignores.keeps_withdrawAll fun _ => ?_
  refine Keeps.bind (keeps_updateState fun session => ?_) fun _ => ignores.overlooks.keeps_notify
  exact ignores.state session _ _ _ _ [] _

theorem keeps_stop (ignores : IgnoresLints view) : Keeps view Session.stop := by
  refine Keeps.bind (Keeps.change fun session => ignores.watcher session _) fun _ => ?_
  refine Keeps.bind (Keeps.require _) fun published => ?_
  refine Keeps.bind (Keeps.change fun session => ignores.published session _) fun _ => ?_
  exact Keeps.bind (Keeps.look _) fun scratch => keeps_onHost ignores.host _

/-- Only evaluations and changes of the output type are seen. -/
theorem keeps_perform (ignores : IgnoresLints view) {request : Request}
    (noEvaluation : ∀ expressions outType, request ≠ .evaluate expressions outType)
    (noOutType : ∀ outType, request ≠ .setOutType outType) : Keeps view request.perform := by
  cases request with
  | evaluate expressions outType => exact absurd rfl (noEvaluation expressions outType)
  | setOutType outType => exact absurd rfl (noOutType outType)
  | start =>
      intro session
      exact (ignores.overlooks.view_start ignores.watcher session).trans
        (ignores.keeps_savedBody session)
  | saved path =>
      intro session
      exact (ignores.overlooks.view_saved path session).trans
        ((ignores.keeps_savedBody _).trans (ignores.host session _))
  | stop => exact ignores.keeps_stop
  | lint => exact ignores.keeps_lint
  | reloadSource => exact ignores.keeps_reloadSource
  | setLintOnSave enabled => exact ignores.keeps_setLintOnSave enabled
  | setFlags flags => exact Keeps.bind (ignores.keeps_storeFlags flags) fun _ => ignores.keeps_lint
  | format =>
      refine ignores.overlooks.keeps_perform .format () (keeps_formatBody ignores.host ?_)
      intro session text status
      exact ignores.state session text _ _ _ _ status

end IgnoresLints

end CueWatch.Session
