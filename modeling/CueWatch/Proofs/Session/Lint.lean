import CueWatch.Proofs.Session.Frame

/-!
Contract: what a lint does to what is known and published about the file.

Owns:
- `Board`, the file, the published findings, and the findings and the report in the state;
- `lintReport?`, the report of a lint that succeeds;
- the board after a lint that succeeds and after one that does not, and how a lint that succeeds
  can be told from its outcome and the last error.

Does not own: the requests that lint (`Proofs.Session.Request`).
-/

namespace CueWatch.Session

open Attempt

/-- What is known and published about the file. -/
structure Board where
  source : Text
  published : Collection
  diagnostics : List Diagnostic
  report : Text

/-- What a session knows and publishes about its file. -/
def board (session : Session) : Board :=
  ⟨session.source, session.published, session.state.diagnostics, session.state.compilerOutput⟩

/-- The canonical path of the file. -/
def place (session : Session) : Except Failure Text := session.host.canonical session.source

/-- The board together with the place of the file. -/
def placedBoard (session : Session) : Board × Except Failure Text := (session.board, session.place)

theorem overlooks_board : Overlooks board := ⟨fun _ _ => rfl, fun _ _ _ => rfl, fun _ _ => rfl⟩

theorem overlooks_place : Overlooks place := ⟨fun _ _ => rfl, fun _ _ _ => rfl, fun _ _ => rfl⟩

theorem overlooks_placedBoard : Overlooks placedBoard :=
  ⟨fun _ _ => rfl, fun _ _ _ => rfl, fun _ _ => rfl⟩

theorem board_onHost (session : Session) (host : Host) :
    board { session with host := host } = board session := rfl

/-! ### The parts of a lint -/

/-- Running the process of a lint changes nothing but the host and the module root. -/
theorem keeps_vet {γ : Type} {view : Session → γ}
    (hostKept : ∀ session host, view { session with host := host } = view session)
    (rootKept : ∀ session root,
      view { session with state := { session.state with moduleRoot := root } } = view session) :
    Keeps view vet := by
  have found : Keeps view findModuleRoot := by
    refine Keeps.bind (Keeps.look id) fun session => ?_
    refine Keeps.bind (keeps_onHost hostKept _) fun root => ?_
    exact Keeps.bind (keeps_updateState fun session => rootKept session root) fun _ =>
      Keeps.pure root
  refine Keeps.bind found fun root => ?_
  refine Keeps.bind (Keeps.look id) fun session => ?_
  refine Keeps.bind (keeps_onHost hostKept _) fun result => ?_
  exact Keeps.bind (keeps_onHost hostKept _) fun _ => Keeps.pure result

/-- The session after the findings of a report have been published under the canonical path. -/
def digested (session : Session) (key report : Text) (diagnostics : List Diagnostic) : Session :=
  { session with
    published := ⟨Keyed.put key diagnostics session.published.entries⟩
    state := (session.state.withLint report diagnostics).withStatus (lintMessage diagnostics) }

theorem run_publish {session : Session} {key : Text} (diagnostics : List Diagnostic)
    (placed : session.place = .ok key) :
    (publish session.source diagnostics).run session =
      (.ok (),
        { session with
          published := ⟨Keyed.put key diagnostics session.published.entries⟩ }) := by
  have published : session.published.publish session.source diagnostics session.host =
      .ok ⟨Keyed.put key diagnostics session.published.entries⟩ := by
    rw [place] at placed
    rw [Collection.publish, placed]
    rfl
  rw [publish, run_bind, run_require, published]
  rfl

theorem run_digest {session : Session} {report key : Text} {diagnostics : List Diagnostic}
    (read : Report.parse report = .ok diagnostics) (placed : session.place = .ok key) :
    (digest report).run session = (.ok (), session.digested key report diagnostics) := by
  rw [digest, run_bind, run_ofExcept, read]
  change ((publish session.source diagnostics) >>= fun _ => updateState _).run session = _
  rw [run_bind, run_publish diagnostics placed]
  rfl

theorem run_digest_of_unreadable {session : Session} {report : Text} {failure : Failure}
    (unreadable : Report.parse report = .error failure) :
    (digest report).run session = (.error failure, session) := by
  rw [digest, run_bind, run_ofExcept, unreadable]

theorem run_digest_of_unplaced {session : Session} {report : Text} {diagnostics : List Diagnostic}
    {failure : Failure} (read : Report.parse report = .ok diagnostics)
    (unplaced : session.place = .error failure) :
    (digest report).run session = (.error failure, session) := by
  have refused : session.published.publish session.source diagnostics session.host =
      .error failure := by
    rw [place] at unplaced
    rw [Collection.publish, unplaced]
    rfl
  rw [digest, run_bind, run_ofExcept, read]
  change ((publish session.source diagnostics) >>= fun _ => updateState _).run session = _
  rw [publish, run_bind, run_bind, run_require, refused]

/-! ### The whole lint -/

/-- The session at the beginning of a lint's body: the lint has been noted, and the last error is
forgotten. -/
def begun (session : Session) : Session :=
  { session with
    host := ((Host.log .info
      ("Linting " ++ session.source ++ " with flags " ++ session.lintFlags.shown)).run
        session.host).2
    state := session.state.withError [] }

/-- The report of a lint that succeeds: the process has run in the module root, what it has written
is readable as a report, and there is a canonical path to publish the findings under. -/
def lintReport? (session : Session) : Option Text :=
  match vet.run session.begun with
  | (.error _, _) => none
  | (.ok result, reached) =>
      match Report.parse result.stderr, reached.place with
      | .ok _, .ok _ => some result.stderr
      | _, _ => none

/-- The ways in which the body of a lint ends, with the report if it succeeds. -/
inductive LintEnd (session : Session) : Option Text → Except Failure Unit × Session → Prop
  | failed {failure : Failure} {reached : Session} (kept : reached.board = session.board) :
      LintEnd session none (.error failure, reached)
  | succeeded {report key : Text} {diagnostics : List Diagnostic} {reached : Session}
      (kept : reached.board = session.board) (quiet : reached.state.lastError = [])
      (read : Report.parse report = .ok diagnostics) (placed : reached.place = .ok key) :
      LintEnd session (some report) (.ok (), reached.digested key report diagnostics)

/-- Up to its last step a lint leaves the board as it was, and the last step cannot fail. -/
theorem lintBody_ends (session : Session) :
    LintEnd session session.lintReport? (lintBody.run session.begun) := by
  have vetKept : (vet.run session.begun).2.board = session.board :=
    keeps_vet board_onHost (fun _ _ => rfl) session.begun
  have errorKept : Keeps (fun session : Session => session.state.lastError) vet :=
    keeps_vet (fun _ _ => rfl) fun _ _ => rfl
  have vetQuiet : (vet.run session.begun).2.state.lastError = [] := errorKept session.begun
  rw [lintReport?, lintBody, run_bind]
  rcases ran : vet.run session.begun with ⟨failure | result, reached⟩
  · rw [ran] at vetKept
    exact .failed vetKept
  · rw [ran] at vetKept vetQuiet
    change LintEnd session _ ((digest result.stderr).run reached)
    cases read : Report.parse result.stderr with
    | error failure =>
        rw [run_digest_of_unreadable read]
        simp only [read]
        exact .failed vetKept
    | ok diagnostics =>
        cases placed : reached.place with
        | error failure =>
            rw [run_digest_of_unplaced read placed]
            simp only [read, placed]
            exact .failed vetKept
        | ok key =>
            rw [run_digest read placed]
            simp only [read, placed]
            exact .succeeded vetKept vetQuiet read placed

/-- For views that overlook what every command does, a lint is its body. -/
theorem view_lint {γ : Type} {view : Session → γ} (overlooks : Overlooks view) (session : Session) :
    view (lint.run session).2 = view (lintBody.run session.begun).2 :=
  overlooks.view_perform .lint () lintBody _

/-- A lint that succeeds is one that does not fail and leaves no error behind. -/
theorem lint_succeeds_iff (session : Session) :
    session.lintReport?.isSome ↔
      (lint.run session).1 = .ok () ∧ (lint.run session).2.state.lastError = [] := by
  have ends := lintBody_ends session
  change _ ↔ ((perform .lint () lintBody).run _).1 = _ ∧
    ((perform .lint () lintBody).run _).2.state.lastError = _
  generalize bodyRan : lintBody.run session.begun = ended at ends
  generalize session.lintReport? = report? at ends ⊢
  cases ends with
  | @failed failure reached kept =>
      rw [run_perform_of_error bodyRan]
      by_cases escaping : escapes failure
      · simp [escaping]
      · simp [escaping, failureMessage_ne_nil]
  | @succeeded report key diagnostics reached kept quiet read placed =>
      rw [run_perform_of_ok bodyRan]
      simpa [digested, State.withStatus, State.withLint] using quiet

/-- A lint fails exactly when it has no report to publish. -/
theorem fails_lint_iff (session : Session) : Fails lint session ↔ session.lintReport? = none := by
  have succeeds := lint_succeeds_iff session
  constructor
  · intro fails
    rw [← Option.not_isSome_iff_eq_none, succeeds]
    rintro ⟨finished, quiet⟩
    rcases fails with ⟨failure, escaped⟩ | reported
    · rw [finished] at escaped
      cases escaped
    · exact reported quiet
  · intro silent
    rw [silent] at succeeds
    rcases outcome : (lint.run session).1 with failure | _
    · exact .inl ⟨failure, outcome⟩
    · exact .inr fun quiet => Bool.false_ne_true (succeeds.mpr ⟨outcome, quiet⟩)

/-- A lint that does not succeed leaves the board as it was. -/
theorem board_lint_of_none {session : Session} (unsuccessful : session.lintReport? = none) :
    (lint.run session).2.board = session.board := by
  have ends := lintBody_ends session
  rw [view_lint overlooks_board]
  rw [unsuccessful] at ends
  generalize lintBody.run session.begun = ended at ends ⊢
  cases ends with
  | failed kept => exact kept

/-- A lint that succeeds publishes what its report says and keeps the report. -/
theorem board_lint_of_some {session : Session} {report : Text}
    (successful : session.lintReport? = some report) :
    ∃ diagnostics key,
      Report.parse report = .ok diagnostics ∧
      (lint.run session).2.place = .ok key ∧
      (lint.run session).2.board =
        ⟨session.source, ⟨Keyed.put key diagnostics session.published.entries⟩, diagnostics,
          report⟩ := by
  have ends := lintBody_ends session
  rw [view_lint overlooks_board, view_lint overlooks_place]
  rw [successful] at ends
  generalize lintBody.run session.begun = ended at ends ⊢
  cases ends with
  | @succeeded _ key diagnostics reached kept quiet read placed =>
      refine ⟨diagnostics, key, read, placed, ?_⟩
      have source : reached.source = session.source := congrArg Board.source kept
      have published : reached.published = session.published := congrArg Board.published kept
      rw [← source, ← published]
      rfl

end CueWatch.Session
