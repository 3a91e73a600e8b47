import CueWatch.Proofs.Diagnostic.LookBack

/-!
Contract: reports that can be read in pieces.

Owns:
- `OpensWithMessage`, the reports whose first line that says something is a message;
- that such a report is read in the same way whatever message is in force before it;
- that two reports with a newline between them are read one after the other, if the second one opens
  with a message.

Does not own: how lines are told apart (`Text.Lines`) and which of them are locations
(`LocationLine`).
-/

namespace CueWatch.Report

open LookBack

/-- The first line that says something, if there is one, is a message and not a location. -/
def OpensWithMessage (report : Text) : Prop :=
  ∀ line ∈ (spoken (Text.reportLines report)).head?, isMessage line = true

instance (report : Text) : Decidable (OpensWithMessage report) :=
  inferInstanceAs (Decidable (∀ line ∈ (spoken (Text.reportLines report)).head?, _))

/-- What stands in force before a report that opens with a message does not count. -/
theorem Reader.read_of_opensWithMessage {report : Text} (opens : OpensWithMessage report)
    (reader : Reader) : reader.read (Text.reportLines report) = parse report := by
  unfold OpensWithMessage at opens
  rw [parse, ← Reader.read_spoken reader, ← Reader.read_spoken Reader.initial]
  cases lines : spoken (Text.reportLines report) with
  | nil => rfl
  | cons line rest =>
      have member : line ∈ spoken (Text.reportLines report) := by simp [lines]
      have speaks : Text.isBlankText line = false := by
        simpa [spoken] using (List.mem_filter.mp member).2
      have message : isMessage line = true := opens line (by simp [lines])
      rw [Reader.read, Reader.read, Reader.feed_message _ speaks message,
        Reader.feed_message _ speaks message]

/-- Two reports with a newline between them are read one after the other: the findings of the first
one and then those of the second one, or the failure of the first one that fails. The first one must
not end with a carriage return, and the second one must open with a message; then it is read as if
nothing had been in force before it. -/
theorem parse_in_pieces {first second : Text} (whole : ¬ ['\r'] <:+ first)
    (opens : OpensWithMessage second) :
    (∀ reader : Reader, reader.read (Text.reportLines second) = parse second) ∧
    parse (first ++ '\n' :: second) =
      match parse first, parse second with
      | .ok findings, .ok more => .ok (findings ++ more)
      | .ok _, .error failure => .error failure
      | .error failure, _ => .error failure := by
  have alike := Reader.read_of_opensWithMessage opens
  refine ⟨alike, ?_⟩
  rw [parse, Text.reportLines_append whole, Reader.read_append, alike]
  change Except.bind (parse first) _ = _
  cases parse first with
  | error failure => rfl
  | ok findings => cases parse second <;> rfl

/-- A suppressed message and its location. -/
def suppressedReport : Text := "incomplete value:\r\n    a.cue:1:2"

/-- Blank lines, another message and its location. -/
def blankThenMessage : Text := " \t\r\n\nconflict::\n    b.cue:3:4"

theorem suppression_ends_with_its_report :
    ¬ ['\r'] <:+ suppressedReport ∧ OpensWithMessage blankThenMessage ∧
      parse (suppressedReport ++ '\n' :: blankThenMessage) =
        .ok [⟨2, 4, "error", "conflict:", "b.cue"⟩] := by
  have whole : ¬ ['\r'] <:+ suppressedReport := by decide +kernel
  have opens : OpensWithMessage blankThenMessage := by decide +kernel
  have first : parse suppressedReport = .ok [] := by decide +kernel
  have second : parse blankThenMessage = .ok [⟨2, 4, "error", "conflict:", "b.cue"⟩] := by
    decide +kernel
  refine ⟨whole, opens, ?_⟩
  rw [(parse_in_pieces whole opens).2, first, second]
  rfl

end CueWatch.Report
