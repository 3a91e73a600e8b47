import CueWatch.Proofs.Session.Request
import Mathlib.Control.Monad.Basic

/-!
Contract: the published findings of a file are the ones in the state, whatever is asked of its
session and whichever of it fails.

Owns:
- `Board.InStep`, that the published findings, the findings in the state and the report of the
  latest lint agree;
- `Tracked`, the sessions that come about by requests as long as the canonical path of the file
  stays the same;
- that the board of every such session is in step.

Does not own: stopping, and new flags whose lint fails.
-/

namespace CueWatch.Session

open Attempt

/-! ### Boards in step -/

/-- The published findings are those in the state and stand under one path only, and they are what
the report of the latest lint says, unless they have been withdrawn. -/
structure Board.InStep (key : Text) (latest : Option Text) (board : Board) : Prop where
  published : (Keyed.find? key board.published.entries).getD [] = board.diagnostics
  alone : ∀ path ∈ board.published.paths, path = key
  report : board.report = latest.getD []
  read : board.diagnostics = [] ∨ Report.parse board.report = .ok board.diagnostics

/-- Publishing under the only path leaves it the only one. -/
theorem paths_put_alone {key : Text} {entries : Keyed Text (List Diagnostic)}
    (alone : ∀ path ∈ Keyed.keys entries, path = key) (diagnostics : List Diagnostic) :
    ∀ path ∈ Keyed.keys (Keyed.put key diagnostics entries), path = key := by
  intro path member
  rw [Keyed.keys_put] at member
  by_cases present : key ∈ Keyed.keys entries
  · rw [if_pos present] at member
    exact alone path member
  · rw [if_neg present] at member
    rcases List.mem_append.mp member with old | new
    · exact alone path old
    · exact List.mem_singleton.mp new

/-- What a request does to a board in step leaves it in step, also with the latest lint. -/
theorem BoardStep.inStep {before : Board} {reached : Session} {report? latest : Option Text}
    {key : Text} (stepped : BoardStep before reached report?) (placed : reached.place = .ok key)
    (inStep : before.InStep key latest) : reached.board.InStep key (report?.or latest) := by
  cases stepped with
  | kept same =>
      rw [same, Option.none_or]
      exact inStep
  | withdrawn same =>
      rw [same, Option.none_or]
      exact
        { published := rfl
          alone := fun path member => absurd member List.not_mem_nil
          report := inStep.report
          read := .inl rfl }
  | @linted report found diagnostics published onto read publishedAt same =>
      have here : found = key := Except.ok.inj (publishedAt.symm.trans placed)
      subst here
      have alone : ∀ path ∈ Keyed.keys published.entries, path = found := by
        rcases onto with old | emptied
        · rw [old]
          exact inStep.alone
        · rw [emptied]
          exact fun path member => absurd member List.not_mem_nil
      rw [same, Option.some_or]
      exact
        { published := by rw [Keyed.find?_put_self, Option.getD_some]
          alone := paths_put_alone alone diagnostics
          report := rfl
          read := .inr read }

/-! ### Runs -/

/-- The sessions on a file whose canonical path stays `key`, each with the report of the latest
lint that succeeded: a new session, a session after a request, and a session whose surroundings,
settings, flags, watcher or listener are different from one moment to the next. -/
inductive Tracked (key : Text) : Session → Option Text → Prop
  | created {file : Text} {settings : Settings.Store} {workspaceFolder : Option Text} {host : Host}
      {session : Session}
      (made : ((create file settings workspaceFolder).run host).1 = .ok session)
      (placed : session.place = .ok key) :
      Tracked key session none
  | requested {session : Session} {latest : Option Text} (request : Request)
      (before : Tracked key session latest) (staysInStep : request.StaysInStep session)
      (placed : (request.perform.run session).2.place = .ok key) :
      Tracked key (request.perform.run session).2 ((request.lintReport? session).or latest)
  | disturbed {session later : Session} {latest : Option Text}
      (before : Tracked key session latest) (same : later.board = session.board)
      (placed : later.place = .ok key) :
      Tracked key later latest

/-- A new session knows and publishes nothing. -/
theorem board_create {file : Text} {settings : Settings.Store} {workspaceFolder : Option Text}
    {host : Host} {session : Session}
    (made : ((create file settings workspaceFolder).run host).1 = .ok session) :
    session.board = ⟨session.source, .empty, [], []⟩ := by
  obtain ⟨source, _, _, made⟩ := exists_of_run_bind_ok made
  obtain ⟨cue, _, _, made⟩ := exists_of_run_bind_ok made
  obtain ⟨scratch, _, _, made⟩ := exists_of_run_bind_ok made
  obtain ⟨flags, _, _, made⟩ := exists_of_run_bind_ok made
  obtain ⟨host, _, _, made⟩ := exists_of_run_bind_ok made
  rw [← Except.ok.inj made]
  rfl

theorem Tracked.placed {key : Text} {session : Session} {latest : Option Text}
    (tracked : Tracked key session latest) : session.place = .ok key := by
  cases tracked with
  | created made placed => exact placed
  | requested request before staysInStep placed => exact placed
  | disturbed before same placed => exact placed

theorem Tracked.inStep {key : Text} {session : Session} {latest : Option Text}
    (tracked : Tracked key session latest) : session.board.InStep key latest := by
  induction tracked with
  | created made placed =>
      rw [board_create made]
      exact
        { published := rfl
          alone := fun path member => absurd member List.not_mem_nil
          report := rfl
          read := .inl rfl }
  | requested request before staysInStep placed inductionHypothesis =>
      exact (boardStep_perform request _ staysInStep).inStep placed inductionHypothesis
  | disturbed before same placed inductionHypothesis =>
      rw [same]
      exact inductionHypothesis

/-- At every moment the published findings of the file are those in the state, nothing is published
under another path than the file's own, the report in the state is that of the latest lint that
succeeded, and the findings are what it says, unless they have been withdrawn. -/
theorem published_in_step {key : Text} {session : Session} {latest : Option Text}
    (tracked : Tracked key session latest) :
    session.published.get session.source session.host = .ok session.state.diagnostics ∧
    (∀ path ∈ session.published.paths, session.host.canonical session.source = .ok path) ∧
    session.state.compilerOutput = latest.getD [] ∧
    (session.state.diagnostics = [] ∨
      Report.parse session.state.compilerOutput = .ok session.state.diagnostics) := by
  have placed : session.host.canonical session.source = .ok key := tracked.placed
  have inStep := tracked.inStep
  refine ⟨?_, ?_, inStep.report, inStep.read⟩
  · rw [Collection.get, placed]
    exact congrArg Except.ok inStep.published
  · intro path member
    rw [placed, inStep.alone path member]

/-- A report about a name that is not defined. -/
def unresolvedReport : Text := "reference \"y\" not found:\n    /w/a.cue:1:4\n"

/-- A host with a file in a module; the next process reports the undefined name, and the one after
it cannot format the file. -/
def unresolvedHost : Host where
  tree :=
    ⟨[(["w"], .directory), (["w", "cue.mod"], .directory),
      (["w", "a.cue"], .file (.text "x: y")), (["tmp"], .directory)]⟩
  workingDirectory := FileTree.Spot.root
  environment := []
  accountHome := none
  programs := [("cue", "/bin/cue")]
  temporary := "/tmp"
  outcomes :=
    [⟨[], none, ⟨[], unresolvedReport, 1⟩⟩, ⟨[], none, ⟨[], "invalid input", 1⟩⟩]
  spawned := []
  drawn := 0
  journal := []

/-- The session on the file. -/
def unresolvedSession : Session where
  host :=
    { unresolvedHost with
      tree := unresolvedHost.tree.place ["tmp", "cuebolt-00000001"] .directory
      drawn := 1
      journal := [⟨.debug, "created temp workspace /tmp/cuebolt-00000001"⟩] }
  settings := ⟨Pathname.ofText "/s", Settings.defaults⟩
  source := "/w/a.cue"
  workspaceFolder := some "/w"
  cue := ⟨.text "cue", some "/bin/cue"⟩
  lintFlags := .array []
  state := State.initial
  published := .empty
  scratch := ⟨"/tmp/cuebolt-00000001"⟩
  watcher := .initial
  hasListener := false
  notices := 0

theorem create_unresolvedSession :
    ((create "/w/a.cue" unresolvedSession.settings (some "/w")).run unresolvedHost).1 =
      .ok unresolvedSession := by decide +kernel

/-- New flags for lints. -/
def strictFlags : Request := .setFlags (.array [.text "--strict"])

/-- The session after new flags, whose lint finds the undefined name, and an attempt to format the
file. -/
def unformattedSession : Session :=
  (Request.format.perform.run (strictFlags.perform.run unresolvedSession).2).2

theorem tracked_unformattedSession :
    Tracked "/w/a.cue" unformattedSession (some unresolvedReport) := by
  have opened : Tracked "/w/a.cue" unresolvedSession none :=
    .created create_unresolvedSession (by decide +kernel)
  have found : strictFlags.lintReport? unresolvedSession = some unresolvedReport := by
    decide +kernel
  have linted := Tracked.requested strictFlags opened (staysInStep_setFlags found)
    (by decide +kernel)
  rw [found] at linted
  exact Tracked.requested .format linted trivial (by decide +kernel)

theorem published_in_step_of_unformatted :
    unformattedSession.state.diagnostics.length = 1 ∧
    unformattedSession.state.lastError ≠ [] ∧
    unformattedSession.published.get unformattedSession.source unformattedSession.host =
      .ok unformattedSession.state.diagnostics ∧
    (∀ path ∈ unformattedSession.published.paths,
      unformattedSession.host.canonical unformattedSession.source = .ok path) ∧
    unformattedSession.state.compilerOutput = unresolvedReport ∧
    (unformattedSession.state.diagnostics = [] ∨
      Report.parse unformattedSession.state.compilerOutput =
        .ok unformattedSession.state.diagnostics) :=
  ⟨by decide +kernel, by decide +kernel, published_in_step tracked_unformattedSession⟩

end CueWatch.Session
