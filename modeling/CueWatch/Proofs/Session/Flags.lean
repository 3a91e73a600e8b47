import CueWatch.Proofs.Session.Request
import Mathlib.Control.Monad.Basic

/-!
Contract: new flags withdraw what was published under the old ones.

Owns:
- what is published, and which findings the state holds, after new flags have been stored and saved,
  whether or not the lint under them fails.

Does not own: new flags that cannot be stored or saved; they leave everything published as it was.
-/

namespace CueWatch.Session

open Attempt

/-- Flags that have been stored and saved leave nothing published, and the findings in the state as
they were. -/
theorem board_of_storeFlags {flags : Settings.Value} {session stored : Session}
    (saved : (storeFlags flags).run session = (.ok (), stored)) :
    stored.board = { session.board with published := .empty } := by
  rcases storeFlags_cases flags session with
    ⟨failure, reached, failed, -⟩ | ⟨reached, succeeded, same⟩
  · rw [failed] at saved
    cases saved
  · rw [succeeded] at saved
    obtain ⟨-, rfl⟩ := Prod.mk.inj saved
    exact same

/-- Once new flags have been stored and saved, nothing is published but what the lint under them has
found. If that lint fails, nothing is; the findings in the state are then still those of before. -/
theorem published_under_new_flags {flags : Settings.Value} {session stored : Session}
    (saved : (storeFlags flags).run session = (.ok (), stored)) :
    (Fails lint stored →
      ((setFlags flags).run session).2.published = .empty ∧
      ((setFlags flags).run session).2.state.diagnostics = session.state.diagnostics) ∧
    (¬ Fails lint stored → ∃ report diagnostics key,
      stored.lintReport? = some report ∧
      Report.parse report = .ok diagnostics ∧
      ((setFlags flags).run session).2.place = .ok key ∧
      ((setFlags flags).run session).2.published = ⟨[(key, diagnostics)]⟩ ∧
      ((setFlags flags).run session).2.state.diagnostics = diagnostics) := by
  have withdrawn := board_of_storeFlags saved
  have emptied : stored.published = .empty := congrArg Board.published withdrawn
  have continued : (setFlags flags).run session = lint.run stored := by
    rw [setFlags, run_bind_of_ok saved]
  rw [continued, fails_lint_iff]
  constructor
  · intro unsuccessful
    have same : (lint.run stored).2.board = { session.board with published := .empty } :=
      (board_lint_of_none unsuccessful).trans withdrawn
    exact ⟨congrArg Board.published same, congrArg Board.diagnostics same⟩
  · intro successful
    obtain ⟨report, linted⟩ := Option.ne_none_iff_exists'.mp successful
    obtain ⟨diagnostics, key, read, placed, same⟩ := board_lint_of_some linted
    rw [emptied] at same
    exact ⟨report, diagnostics, key, linted, read, placed, congrArg Board.published same,
      congrArg Board.diagnostics same⟩

/-- New flags for lints, on a session with the results of an earlier lint. -/
def stricterFlags : Settings.Value := .array [.text "--strict"]

/-- The report of a lint that finds another name undefined. -/
def strictReport : Text := "reference \"z\" not found:\n    /w/a.cue:1:6\n"

/-- The same session on a host on which the next process makes a report. -/
def reportingSession : Session :=
  { refusedSession with
    host := { refusingHost with outcomes := [⟨[], none, ⟨[], strictReport, 1⟩⟩] } }

theorem strict_finding_published :
    ¬ Fails lint ((storeFlags stricterFlags).run reportingSession).2 ∧
    ∃ key,
      ((setFlags stricterFlags).run reportingSession).2.place = .ok key ∧
      ((setFlags stricterFlags).run reportingSession).2.published =
        ⟨[(key, [⟨0, 6, "error", "reference \"z\" not found", "/w/a.cue"⟩])]⟩ := by
  have saved : (storeFlags stricterFlags).run reportingSession =
      (.ok (), ((storeFlags stricterFlags).run reportingSession).2) :=
    Prod.ext (by decide +kernel) rfl
  have report : ((storeFlags stricterFlags).run reportingSession).2.lintReport? =
      some strictReport := by decide +kernel
  have succeeds : ¬ Fails lint ((storeFlags stricterFlags).run reportingSession).2 := by
    rw [fails_lint_iff, report]
    exact Option.some_ne_none _
  obtain ⟨found, diagnostics, key, linted, read, placed, published, -⟩ :=
    (published_under_new_flags saved).2 succeeds
  obtain rfl : strictReport = found := Option.some.inj (report.symm.trans linted)
  have findings : Report.parse strictReport =
      .ok [⟨0, 6, "error", "reference \"z\" not found", "/w/a.cue"⟩] := by rfl
  obtain rfl := Except.ok.inj (findings.symm.trans read)
  exact ⟨succeeds, key, placed, published⟩

/-- If the lint under new flags fails, a finding that was made under the old ones stays in the
state. -/
theorem stale_finding_stays :
    ((storeFlags stricterFlags).run refusedSession).1 = .ok () ∧
    Fails lint ((storeFlags stricterFlags).run refusedSession).2 ∧
    ((setFlags stricterFlags).run refusedSession).2.published = .empty ∧
    ((setFlags stricterFlags).run refusedSession).2.state.diagnostics = [earlierFinding] :=
  ⟨by decide +kernel, .inr (by decide +kernel), by decide +kernel, by decide +kernel⟩

end CueWatch.Session
