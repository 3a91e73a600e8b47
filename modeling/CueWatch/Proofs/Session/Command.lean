import CueWatch.Proofs.Session.Lint

/-!
Contract: a lint, an evaluation or a format does all of its work or none of it, and its work touches
nothing that belongs to another command.

Owns:
- `Command`, the three commands;
- `Traces`, what every command leaves behind: the surroundings, the messages, and how often the
  listener has been told;
- the session after a command, up to its traces: whenever it fails, and in any case.

Does not own: what the work of a command is (`Proofs.Session.Lint`).
-/

namespace CueWatch.Session

open Attempt

/-- The commands whose failures are reported, with what they are asked for. -/
inductive Command where
  | lint
  | evaluate (expressions outType : Settings.Value)
  | format

/-- Carries out a command. -/
def Command.perform : Command → Attempt Session Unit
  | .lint => Session.lint
  | .evaluate expressions outType => do
      let _ ← Session.evaluate expressions outType
  | .format => Session.format

/-- The session after a command. -/
def Command.after (command : Command) (session : Session) : Session :=
  (command.perform.run session).2

/-- What every command leaves behind, whether or not it does its work. -/
structure Traces where
  host : Host
  notices : Nat
  statusMessage : Text
  lastError : Text

/-- The traces in a session. -/
def traces (session : Session) : Traces :=
  ⟨session.host, session.notices, session.state.statusMessage, session.state.lastError⟩

/-- The session with other traces. -/
def withTraces (session : Session) (traces : Traces) : Session :=
  { session with
    host := traces.host
    notices := traces.notices
    state :=
      { session.state with
        statusMessage := traces.statusMessage
        lastError := traces.lastError } }

/-- The session with another module root. -/
def withRoot (session : Session) (root : Text) : Session :=
  { session with state := { session.state with moduleRoot := root } }

/-- The session with other results of lints: the module root, the report, its findings, and what is
published. -/
def withLintOf (session after : Session) : Session :=
  { session with
    published := after.published
    state :=
      { session.state with
        moduleRoot := after.state.moduleRoot
        compilerOutput := after.state.compilerOutput
        diagnostics := after.state.diagnostics } }

/-- The session with other results of evaluations: the output, its type and its file. -/
def withEvalOf (session after : Session) : Session :=
  { session with
    state :=
      { session.state with
        evalOutput := after.state.evalOutput
        evalOutType := after.state.evalOutType
        evalFile := after.state.evalFile } }

/-- The session with another source text. -/
def withSource (session : Session) (text : Text) : Session :=
  { session with state := { session.state with sourceCode := text } }

/-- A session with the work of a command as it is in another one. -/
def Command.workOf (command : Command) (session after : Session) : Session :=
  match command with
  | .lint => session.withLintOf after
  | .evaluate _ _ => session.withEvalOf after
  | .format => session.withSource after.state.sourceCode

/-- A session with as much of a command's work as it may have done when it fails: a lint may have
found the module root. -/
def Command.remainsOf (command : Command) (session after : Session) : Session :=
  match command with
  | .lint => session.withRoot after.state.moduleRoot
  | .evaluate _ _ => session
  | .format => session

theorem overlooks_withTraces : Overlooks withTraces :=
  ⟨fun _ _ => rfl, fun _ _ _ => rfl, fun _ _ => rfl⟩

/-! ### Lints -/

section

variable {γ : Type} {view : Session → γ}

theorem keeps_lintBody
    (hostKept : ∀ session host, view { session with host := host } = view session)
    (workKept : ∀ session published root report diagnostics status,
      view { session with
        published := published
        state :=
          { session.state with
            moduleRoot := root
            compilerOutput := report
            diagnostics := diagnostics
            statusMessage := status } } = view session) :
    Keeps view lintBody := by
  have vetKept : Keeps view vet :=
    keeps_vet hostKept fun session root => workKept session _ root _ _ _
  refine Keeps.bind vetKept fun result => ?_
  refine Keeps.bind (Keeps.ofExcept _) fun diagnostics => ?_
  refine Keeps.bind (Keeps.look _) fun source => ?_
  refine Keeps.bind ?_ fun _ => keeps_updateState fun session => ?_
  · refine Keeps.bind (Keeps.require _) fun published => Keeps.change fun session => ?_
    exact workKept session published _ _ _ _
  · exact workKept session _ _ result.stderr diagnostics _

/-- A lint changes nothing but the host and the module root before its last two steps, which
cannot fail. -/
theorem atomic_lintBody
    (hostKept : ∀ session host, view { session with host := host } = view session)
    (rootKept : ∀ session root, view (session.withRoot root) = view session) :
    Atomic view lintBody := by
  refine Atomic.bind (keeps_vet hostKept rootKept) fun result => ?_
  refine Atomic.bind (Keeps.ofExcept _) fun diagnostics => ?_
  refine Atomic.bind (Keeps.look _) fun source => ?_
  refine Atomic.bind_total ?_ fun _ => Total.change _
  exact Atomic.bind (Keeps.require _) fun published => (Total.change _).atomic

/-! ### Evaluations -/

theorem keeps_evaluateBody
    (hostKept : ∀ session host, view { session with host := host } = view session)
    (workKept : ∀ session output outType file status,
      view { session with
        state := (session.state.withEval output outType file).withStatus status } = view session)
    (expressions outType : Settings.Value) : Keeps view (evaluateBody expressions outType) := by
  refine Keeps.bind (Keeps.require _) fun directory => ?_
  refine Keeps.bind (Keeps.ofExcept _) fun items => ?_
  refine Keeps.bind (Keeps.look _) fun session => ?_
  refine Keeps.bind (keeps_onHost hostKept _) fun output => ?_
  refine Keeps.bind (keeps_onHost hostKept _) fun place => ?_
  refine Keeps.bind (Keeps.ofExcept _) fun format => ?_
  refine Keeps.bind (keeps_onHost hostKept _) fun _ => ?_
  refine Keeps.bind (keeps_updateState fun session => ?_) fun _ => Keeps.pure _
  exact workKept session output outType _ _

/-- An evaluation changes nothing but the host before its last step, which cannot fail. -/
theorem atomic_evaluateBody
    (hostKept : ∀ session host, view { session with host := host } = view session)
    (expressions outType : Settings.Value) : Atomic view (evaluateBody expressions outType) := by
  refine Atomic.bind (Keeps.require _) fun directory => ?_
  refine Atomic.bind (Keeps.ofExcept _) fun items => ?_
  refine Atomic.bind (Keeps.look _) fun session => ?_
  refine Atomic.bind (keeps_onHost hostKept _) fun output => ?_
  refine Atomic.bind (keeps_onHost hostKept _) fun place => ?_
  refine Atomic.bind (Keeps.ofExcept _) fun format => ?_
  refine Atomic.bind (keeps_onHost hostKept _) fun _ => ?_
  exact (Total.bind (Total.change _) fun _ => Total.pure _).atomic

/-! ### Formats -/

theorem keeps_formatBody
    (hostKept : ∀ session host, view { session with host := host } = view session)
    (workKept : ∀ session text status,
      view { session with
        state :=
          { session.state with sourceCode := text, statusMessage := status } } = view session) :
    Keeps view formatBody := by
  refine Keeps.bind (Keeps.look _) fun session => ?_
  refine Keeps.bind (keeps_onHost hostKept _) fun _ => ?_
  refine Keeps.bind ?_ fun _ => keeps_updateState fun session => ?_
  · refine Keeps.bind (Keeps.require _) fun text => keeps_updateState fun session => ?_
    exact workKept session text _
  · exact workKept session _ _

/-- A format changes nothing but the host before its last two steps, which cannot fail. -/
theorem atomic_formatBody
    (hostKept : ∀ session host, view { session with host := host } = view session) :
    Atomic view formatBody := by
  refine Atomic.bind (Keeps.look _) fun session => ?_
  refine Atomic.bind (keeps_onHost hostKept _) fun _ => ?_
  refine Atomic.bind_total ?_ fun _ => Total.change _
  exact Atomic.bind (Keeps.require _) fun text => (Total.change _).atomic

end

/-! ### Every command -/

theorem quiet_lintBody : Keeps lastError lintBody :=
  keeps_lintBody (fun _ _ => rfl) fun _ _ _ _ _ _ => rfl

theorem quiet_evaluateBody (expressions outType : Settings.Value) :
    Keeps lastError (evaluateBody expressions outType) :=
  keeps_evaluateBody (fun _ _ => rfl) (fun _ _ _ _ _ => rfl) expressions outType

theorem quiet_formatBody : Keeps lastError formatBody :=
  keeps_formatBody (fun _ _ => rfl) fun _ _ _ => rfl

/-- The session after a lint has been noted. -/
def notedLint (session : Session) : Session :=
  { session with
    host := ((Host.log .info
      ("Linting " ++ session.source ++ " with flags " ++ session.lintFlags.shown)).run
        session.host).2 }

theorem after_evaluate (expressions outType : Settings.Value) (session : Session) :
    (Command.evaluate expressions outType).after session =
      ((evaluate expressions outType).run session).2 := by
  rw [Command.after, Command.perform, run_bind]
  rcases (evaluate expressions outType).run session with ⟨failure | file, reached⟩
  · rfl
  · rfl

theorem fails_perform_evaluate_iff (expressions outType : Settings.Value) (session : Session) :
    Fails (Command.evaluate expressions outType).perform session ↔
      Fails (evaluate expressions outType) session := by
  rw [Fails, Fails, Command.perform, run_bind]
  rcases (evaluate expressions outType).run session with ⟨failure | file, reached⟩
  · simp
  · simp

/-- A session that another one becomes by an edit that changes nothing in it, up to traces. -/
theorem eq_withTraces {session after : Session} (edit : Session → Session)
    (same : (edit after).withTraces = (edit session).withTraces) (own : edit after = after) :
    after = (edit session).withTraces after.traces := by
  have traced := congrFun same after.traces
  rwa [own] at traced

/-- A command that fails leaves the session as it was, but that a lint may have found the module
root. -/
theorem after_of_fails {command : Command} {session : Session}
    (fails : Fails command.perform session) :
    command.after session =
      (command.remainsOf session (command.after session)).withTraces
        (command.after session).traces := by
  cases command with
  | lint =>
      let view (session : Session) (root : Text) : Traces → Session :=
        (session.withRoot root).withTraces
      have overlooks : Overlooks view := ⟨fun _ _ => rfl, fun _ _ _ => rfl, fun _ _ => rfl⟩
      have atomic : Atomic view lintBody := atomic_lintBody (fun _ _ => rfl) fun _ _ => rfl
      have same : view (lint.run session).2 = view session :=
        overlooks.view_perform_of_fails quiet_lintBody atomic fails
      exact eq_withTraces (fun before => before.withRoot (lint.run session).2.state.moduleRoot)
        (congrFun same _) rfl
  | evaluate expressions outType =>
      rw [fails_perform_evaluate_iff] at fails
      have atomic : Atomic withTraces
          (evaluateBody expressions (chosenOutType outType session.state)) :=
        atomic_evaluateBody (fun _ _ => rfl) expressions _
      have same : withTraces ((evaluate expressions outType).run session).2 = withTraces session :=
        overlooks_withTraces.view_perform_of_fails (quiet_evaluateBody _ _) atomic fails
      rw [after_evaluate]
      exact eq_withTraces id same rfl
  | format =>
      have atomic : Atomic withTraces formatBody := atomic_formatBody fun _ _ => rfl
      have same : withTraces (format.run session).2 = withTraces session :=
        overlooks_withTraces.view_perform_of_fails quiet_formatBody atomic fails
      exact eq_withTraces id same rfl

/-- A command leaves the session as it was, but for its own work. -/
theorem after_eq_workOf (command : Command) (session : Session) :
    command.after session =
      (command.workOf session (command.after session)).withTraces
        (command.after session).traces := by
  cases command with
  | lint =>
      let view (session after : Session) : Traces → Session :=
        (session.withLintOf after).withTraces
      have overlooks : Overlooks view := ⟨fun _ _ => rfl, fun _ _ _ => rfl, fun _ _ => rfl⟩
      have kept : Keeps view lintBody := keeps_lintBody (fun _ _ => rfl) fun _ _ _ _ _ _ => rfl
      have same : view (lint.run session).2 = view session :=
        overlooks.keeps_perform .lint () kept session.notedLint
      exact eq_withTraces (fun before => before.withLintOf (lint.run session).2)
        (congrFun same _) rfl
  | evaluate expressions outType =>
      let view (session after : Session) : Traces → Session :=
        (session.withEvalOf after).withTraces
      have overlooks : Overlooks view := ⟨fun _ _ => rfl, fun _ _ _ => rfl, fun _ _ => rfl⟩
      have kept : Keeps view (evaluateBody expressions (chosenOutType outType session.state)) :=
        keeps_evaluateBody (fun _ _ => rfl) (fun _ _ _ _ _ => rfl) expressions _
      have same : view ((evaluate expressions outType).run session).2 = view session :=
        overlooks.keeps_perform .evaluate none kept session
      rw [after_evaluate]
      exact eq_withTraces
        (fun before => before.withEvalOf ((evaluate expressions outType).run session).2)
        (congrFun same _) rfl
  | format =>
      let view (session : Session) (text : Text) : Traces → Session :=
        (session.withSource text).withTraces
      have overlooks : Overlooks view := ⟨fun _ _ => rfl, fun _ _ _ => rfl, fun _ _ => rfl⟩
      have kept : Keeps view formatBody := keeps_formatBody (fun _ _ => rfl) fun _ _ _ => rfl
      have same : view (format.run session).2 = view session :=
        overlooks.keeps_perform .format () kept session
      exact eq_withTraces
        (fun before => before.withSource (format.run session).2.state.sourceCode)
        (congrFun same _) rfl

/-- A command that fails does none of its work, but that a lint may have found the module root; and
no command does anything but its own work. -/
theorem command_does_all_or_nothing (command : Command) (session : Session) :
    (Fails command.perform session →
      command.after session =
        (command.remainsOf session (command.after session)).withTraces
          (command.after session).traces) ∧
    command.after session =
      (command.workOf session (command.after session)).withTraces
        (command.after session).traces :=
  ⟨after_of_fails, after_eq_workOf command session⟩

/-- A host with a file in a module, on which the next process cannot be started. -/
def refusingHost : Host where
  tree :=
    ⟨[(["w"], .directory), (["w", "cue.mod"], .directory),
      (["w", "a.cue"], .file (.text "x: y"))]⟩
  workingDirectory := FileTree.Spot.root
  environment := []
  accountHome := none
  programs := [("cue", "/bin/cue")]
  temporary := "/tmp"
  outcomes := [⟨[], some ⟨"PermissionError", .system, "denied"⟩, ⟨[], [], 0⟩⟩]
  spawned := []
  drawn := 0
  journal := []

/-- A finding of an earlier lint. -/
def earlierFinding : Diagnostic := ⟨0, 4, "error", "reference not found", "/w/a.cue"⟩

/-- A session on the file with the results of an earlier lint. -/
def refusedSession : Session where
  host := refusingHost
  settings := ⟨Pathname.ofText "/s", Settings.defaults⟩
  source := "/w/a.cue"
  workspaceFolder := some "/w"
  cue := ⟨.text "cue", some "/bin/cue"⟩
  lintFlags := .array []
  state := { State.initial with diagnostics := [earlierFinding] }
  published := ⟨[("/w/a.cue", [earlierFinding])]⟩
  scratch := ⟨"/tmp/cuebolt-00000001"⟩
  watcher := .initial
  hasListener := false
  notices := 0

theorem refused_lint_does_nothing :
    Fails Command.lint.perform refusedSession ∧
    (Command.lint.after refusedSession).state.moduleRoot = "/w" ∧
    Command.lint.after refusedSession =
      (refusedSession.withRoot "/w").withTraces (Command.lint.after refusedSession).traces := by
  have fails : Fails Command.lint.perform refusedSession := .inr (by decide +kernel)
  have root : (Command.lint.after refusedSession).state.moduleRoot = "/w" := by decide +kernel
  have nothing := (command_does_all_or_nothing .lint refusedSession).1 fails
  rw [Command.remainsOf, root] at nothing
  exact ⟨fails, root, nothing⟩

end CueWatch.Session
