import CueWatch.Proofs.Diagnostic.LookBack
import CueWatch.Proofs.Diagnostic.Readable
import CueWatch.Proofs.Panel.Spans
import CueWatch.Proofs.Session.Command
import CueWatch.Proofs.Session.Request
import CueWatch.Proofs.Text.SourceLines

/-!
Contract: the line of source that is shown below a finding of a report.

Owns:
- that the findings of a report can always be shown;
- which line of the file is shown: the one that reports count under the finding's number, unless
  line breaks that reports do not count stand before it or in it.

Does not own: where in the text it is shown (`Proofs.Panel.Spans`).
-/

namespace CueWatch

namespace Report

open LookBack

/-- The numbers of the findings of a report are no longer than its numerals, which are read. -/
theorem isPlaceable_of_mem_parse {report : Text} {diagnostics : List Diagnostic}
    (read : parse report = .ok diagnostics) {diagnostic : Diagnostic}
    (member : diagnostic ∈ diagnostics) : Panel.Findings.isPlaceable diagnostic = true := by
  have short := (read_unless_overlong report).1.mp ⟨diagnostics, read⟩
  rw [parse_eq_conclude, conclude] at read
  split at read
  · cases read
  · obtain rfl := Except.ok.inj read
    obtain ⟨entry, among, rfl⟩ := List.mem_map.mp member
    have writable {digits : Text} (isNumeral : digits ∈ numerals entry) :
        Panel.Findings.Writable (Text.numeralValue digits) :=
      Nat.lt_of_lt_of_le (Text.numeralValue_lt digits)
        (Nat.pow_le_pow_right (by decide) (short entry among digits isNumeral))
    refine (Panel.Findings.isPlaceable_iff _).mpr ⟨?_, writable (by simp [numerals])⟩
    rw [finding, Int.sub_add_cancel]
    exact writable (by simp [numerals])

end Report

namespace Panel.Findings

/-- The findings of a report are always shown. -/
theorem shown_of_parse {report : Text} {diagnostics : List Diagnostic}
    (read : Report.parse report = .ok diagnostics) (sourceLines : List Text) :
    shown diagnostics sourceLines = .ok (render diagnostics sourceLines) :=
  if_pos (List.all_eq_true.mpr fun _ member => Report.isPlaceable_of_mem_parse read member)

theorem cuts_render_all (diagnostics : List Diagnostic) (sourceLines : List Text) :
    (render diagnostics sourceLines).cuts = diagnostics.flatMap (parts sourceLines) := by
  cases diagnostics with
  | nil => rfl
  | cons first more => exact cuts_render sourceLines first more

/-! ### The line that is quoted -/

theorem quotedLine?_eq (sourceLines : List Text) (diagnostic : Diagnostic) :
    quotedLine? sourceLines diagnostic =
      if diagnostic.line < 0 then none
      else (sourceLines[diagnostic.line.toNat]?.map Text.trimEnd).filter (· ≠ []) := by
  rw [quotedLine?, ← excerpt?_eq_sourceLine?, excerpt?]
  split <;> rfl

/-- Nothing is quoted of an empty line, so that it does not matter whether there is one at the
end. -/
theorem quotedLine?_withoutLastEmpty (lines : List Text) (diagnostic : Diagnostic) :
    quotedLine? (Text.withoutLastEmpty lines) diagnostic = quotedLine? lines diagnostic := by
  rw [quotedLine?_eq, quotedLine?_eq, Text.withoutLastEmpty]
  generalize diagnostic.line.toNat = number
  by_cases endsEmpty : lines.getLast? = some []
  · obtain ⟨before, rfl⟩ := List.getLast?_eq_some_iff.mp endsEmpty
    rw [if_pos endsEmpty, List.dropLast_concat]
    rcases Nat.lt_trichotomy number before.length with inside | rfl | outside
    · rw [List.getElem?_append_left inside]
    · rw [List.getElem?_concat_length, List.getElem?_eq_none (Nat.le_refl _)]
      rfl
    · have beyond : (before ++ [[]]).length ≤ number := by
        rw [List.length_append, List.length_singleton]
        exact outside
      rw [List.getElem?_eq_none (Nat.le_of_lt outside), List.getElem?_eq_none beyond]
  · rw [if_neg endsEmpty]

theorem parts_congr {lines others : List Text} {diagnostic : Diagnostic}
    (same : quotedLine? lines diagnostic = quotedLine? others diagnostic) :
    parts lines diagnostic = parts others diagnostic := by
  rw [parts, same]
  rfl

/-- What is to be read in the spans of findings, when the file has been read again. -/
theorem flatMap_parts_sourceLines (raw : Text) (diagnostics : List Diagnostic) :
    diagnostics.flatMap (parts (Text.sourceLines (Text.universalNewlines raw))) =
      diagnostics.flatMap (parts (Text.finelyCut raw)) := by
  rw [Text.sourceLines_universalNewlines]
  exact List.flatMap_congr fun diagnostic _ =>
    parts_congr (quotedLine?_withoutLastEmpty (Text.finelyCut raw) diagnostic)

theorem parts_of_undisturbed {raw : Text} {diagnostic : Diagnostic}
    (undisturbed : Text.Undisturbed raw diagnostic.line.toNat) :
    parts (Text.finelyCut raw) diagnostic = parts (Text.reportLines raw) diagnostic := by
  refine parts_congr ?_
  rw [quotedLine?_eq, quotedLine?_eq, Text.getElem?_finelyCut_of_undisturbed undisturbed]

/-- What is shown of findings after the file of a session, whose text is given, has been read
again. In general the lines that reports count are cut further, and the piece of the finding's
number is quoted; that is the counted line itself unless a break disturbs it. -/
structure Quotes (session : Session) (raw : Text) (diagnostics : List Diagnostic)
    (styled : Styled) : Prop where
  reloads : (Session.reloadSource.run session).1 = .ok ()
  shows : shown diagnostics (Session.reloadSource.run session).2.state.sourceLines = .ok styled
  cuts : styled.cuts = diagnostics.flatMap (parts (Text.finelyCut raw))
  counted : ∀ diagnostic ∈ diagnostics, Text.Undisturbed raw diagnostic.line.toNat →
    parts (Text.finelyCut raw) diagnostic = parts (Text.reportLines raw) diagnostic
  outside : ∀ diagnostic ∈ diagnostics, diagnostic.line < 0 →
    quotedLine? (Text.finelyCut raw) diagnostic = none

/-- The line that is shown below a finding of a report. -/
theorem excerpts_are_counted_lines {session : Session} {content : Content} {raw report : Text}
    {diagnostics : List Diagnostic}
    (holds : session.host.content session.source = .ok content)
    (isText : content.decode = .ok raw) (read : Report.parse report = .ok diagnostics) :
    ∃ styled, Quotes session raw diagnostics styled := by
  have reads : session.host.readText session.source = .ok (Text.universalNewlines raw) := by
    rw [Host.readText, holds]
    dsimp only
    rw [Content.read, isText]
    rfl
  have reloaded := Session.run_reloadSource_of_ok reads
  refine ⟨render diagnostics (Text.sourceLines (Text.universalNewlines raw)), ?_⟩
  refine ⟨congrArg Prod.fst reloaded, ?_, ?_, ?_, ?_⟩
  · rw [reloaded]
    exact shown_of_parse read _
  · rw [cuts_render_all, flatMap_parts_sourceLines]
  · exact fun _ _ undisturbed => parts_of_undisturbed undisturbed
  · intro diagnostic _ negative
    rw [quotedLine?_eq, if_pos negative]

/-- A session on a file with a text. -/
def sessionOn (raw : Text) : Session :=
  { Session.refusedSession with
    host := { Session.refusingHost with
      tree := ⟨[(["w"], .directory), (["w", "a.cue"], .file (.text raw))]⟩ } }

/-- Lines with ends of both kinds, of which the last one holds a line separator. -/
def severalLines : Text :=
  "package p\r\nx: \"s\"\n\ny: 1 & x \nz: \"a" ++ Char.ofNat 0x2028 :: "b\"\n"

def mismatchReport : Text :=
  "y: conflicting values 1 and \"s\":\n    ./a.cue:4:4\n    ./a.cue:2:4\n" ++
    "unused:\n    ./a.cue:5:1\n"

def mismatch : Diagnostic := ⟨3, 4, "error", "y: conflicting values 1 and \"s\"", "./a.cue"⟩

def otherFindings : List Diagnostic :=
  [⟨1, 4, "error", "y: conflicting values 1 and \"s\"", "./a.cue"⟩,
    ⟨4, 1, "error", "unused", "./a.cue"⟩]

/-- A finding on the fourth of five lines quotes that line without the blank at its end. -/
theorem counted_line_is_quoted :
    (sessionOn severalLines).host.content (sessionOn severalLines).source =
      .ok (.text severalLines) ∧
    (Content.text severalLines).decode = .ok severalLines ∧
    Report.parse mismatchReport = .ok (mismatch :: otherFindings) ∧
    Text.Undisturbed severalLines mismatch.line.toNat ∧
    ∃ styled, Quotes (sessionOn severalLines) severalLines (mismatch :: otherFindings) styled ∧
      parts (Text.finelyCut severalLines) mismatch =
        ([("./a.cue:4:4", "bold #9FBFC5"), ("y: conflicting values 1 and \"s\"", "#a80000"),
          ("y: 1 & x", "dim")] : List (Text × Text)) := by
  have holds : (sessionOn severalLines).host.content (sessionOn severalLines).source =
      .ok (.text severalLines) := by decide +kernel
  have read : Report.parse mismatchReport = .ok (mismatch :: otherFindings) := by decide +kernel
  have undisturbed : Text.Undisturbed severalLines mismatch.line.toNat := by
    have unbroken : ((Text.reportLines severalLines).take mismatch.line.toNat).all
        (·.all fun c => !Text.isLineBreak c) = true := by decide +kernel
    have isFourth : (Text.reportLines severalLines)[mismatch.line.toNat]? =
        some ("y: 1 & x " : Text) := by decide +kernel
    have whole : (Text.trimEnd "y: 1 & x ").all (fun c => !Text.isLineBreak c) = true := by
      decide +kernel
    refine ⟨by simpa using unbroken, fun line found => ?_⟩
    obtain rfl := Option.some.inj (isFourth.symm.trans found)
    simpa using whole
  obtain ⟨styled, quotes⟩ := excerpts_are_counted_lines holds rfl read
  refine ⟨holds, rfl, read, undisturbed, styled, quotes, ?_⟩
  rw [quotes.counted mismatch List.mem_cons_self undisturbed]
  decide +kernel

/-! ### A line of another number -/

/-- The text of a file, with a line separator in a string of its first line. -/
def separatedSource : Text := "x: \"a" ++ Char.ofNat 0x2028 :: "b\"" ++ '\n' :: "y: 1 & 2\n"

/-- A session on that file. -/
def separatedSession : Session := sessionOn separatedSource

def conflictReport : Text := "y: conflicting values 2 and 1:\n    ./a.cue:2:4\n"

def conflict : Diagnostic := ⟨1, 4, "error", "y: conflicting values 2 and 1", "./a.cue"⟩

/-- Reports count `y: 1 & 2` as the second line; shown is the rest of the string before it. -/
theorem excerpt_of_another_line :
    Report.parse conflictReport = .ok [conflict] ∧
    (Text.reportLines separatedSource)[1]? = some ("y: 1 & 2" : Text) ∧
    (shown [conflict] (Session.reloadSource.run separatedSession).2.state.sourceLines).map
      Styled.cuts = .ok [("./a.cue:2:4", "bold #9FBFC5"),
        ("y: conflicting values 2 and 1", "#a80000"), ("b\"", "dim")] := by
  have cut : (Session.reloadSource.run separatedSession).2.state.sourceLines =
      ["x: \"a", "b\"", "y: 1 & 2"] := by decide +kernel
  refine ⟨by decide +kernel, by decide +kernel, ?_⟩
  rw [cut]
  decide +kernel

end Panel.Findings

end CueWatch
