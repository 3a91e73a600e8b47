import CueWatch.Proofs.Diagnostic.LookBack
import CueWatch.Proofs.Diagnostic.RoundTrip

/-!
Contract: which reports can be read.

Owns:
- that the numerals of a location are cut out of its line, and lines out of the report;
- that a report is read unless a location that it reports has a numeral with too many digits, and
  that nothing else is complained about than such a run of digits in the text.

Does not own: what is read of a report (`LookBack`).
-/

namespace CueWatch

namespace Text

theorem withoutReturn_isPrefix (piece : Text) : withoutReturn piece <+: piece := by
  unfold withoutReturn
  split
  · exact List.dropLast_prefix piece
  · exact List.prefix_rfl

/-- A line of a report stands in the report. -/
theorem isInfix_of_mem_reportLines {line report : Text} (member : line ∈ reportLines report) :
    line <:+: report := by
  rw [reportLines_eq_unended, unended] at member
  rcases List.mem_append.mp member with ended | last
  · obtain ⟨whole, among, rfl⟩ := List.mem_map.mp ended
    exact (withoutReturn_isPrefix whole).isInfix.trans
      (isInfix_of_mem_splitOn (List.dropLast_subset _ among))
  · exact isInfix_of_mem_splitOn (List.mem_of_getLast? (Option.mem_toList.mp last))

end Text

namespace Location

/-- The numerals of a location are runs of digits in its line. -/
theorem isInfix_of_ofLine? {line : Text} {location : Location}
    (read : ofLine? line = some location) :
    ∀ digits ∈ [location.line, location.column],
      digits <:+: line ∧ ∀ c ∈ digits, Text.isDigit c = true := by
  have spells := ofLine?_eq_some_iff.mp read
  have inLine : location.text <:+: line := by
    rcases spells.written with written | written
    · rw [written]
    · rw [written]
      exact (List.prefix_append _ _).isInfix
  intro digits member
  rcases List.mem_pair.mp member with rfl | rfl
  · refine ⟨List.IsInfix.trans ⟨location.file ++ [':'], ':' :: location.column, ?_⟩ inLine,
      spells.lineIsNumeral.areDigits⟩
    simp [text]
  · refine ⟨List.IsInfix.trans ⟨location.file ++ ':' :: location.line ++ [':'], [], ?_⟩ inLine,
      spells.columnIsNumeral.areDigits⟩
    simp [text]

end Location

namespace Report

open LookBack

/-! ### Reports that cannot be read -/

theorem exists_conclude_eq_ok_iff (entries : List (Text × Location)) :
    (∃ findings, conclude entries = .ok findings) ↔
      ∀ entry ∈ entries, ∀ digits ∈ numerals entry, isOverlong digits = false := by
  unfold conclude
  split
  next digits found =>
    refine iff_of_false (by rintro ⟨findings, ⟨⟩⟩) fun short => ?_
    obtain ⟨entry, among, written⟩ := List.mem_flatMap.mp (List.mem_of_find?_eq_some found)
    have overlong := List.find?_some found
    rw [short entry among digits written] at overlong
    cases overlong
  next none =>
    refine iff_of_true ⟨_, rfl⟩ fun entry among digits written => ?_
    have short := List.find?_eq_none.mp none digits (List.mem_flatMap.mpr ⟨entry, among, written⟩)
    exact Bool.not_eq_true _ |>.mp short

/-- A location that is reported is that of a line of the report. -/
theorem exists_line_of_mem_reported {report : Text} {entry : Text × Location}
    (member : entry ∈ reported report) :
    ∃ line ∈ Text.reportLines report, Location.ofLine? line = some entry.2 := by
  obtain ⟨among, -⟩ := List.mem_filter.mp member
  obtain ⟨index, -, found⟩ := List.mem_filterMap.mp among
  obtain ⟨location, read, rfl⟩ := Option.map_eq_some_iff.mp found
  obtain ⟨line, isLine, isLocation⟩ := Option.bind_eq_some_iff.mp read
  rw [← Text.reportLines_eq_unended] at isLine
  exact ⟨line, (List.mem_filter.mp (List.mem_of_getElem? isLine)).1, isLocation⟩

/-- A report is read exactly if no location that it reports has a numeral of more digits than can be
read. If it is not read, what is complained about is the length of such a numeral, a run of digits
in the report: so every report without a run of that many digits is read. -/
theorem read_unless_overlong (report : Text) :
    ((∃ findings, parse report = .ok findings) ↔
      ∀ entry ∈ reported report, ∀ digits ∈ numerals entry, digits.length ≤ Failure.digitLimit) ∧
    ∀ failure, parse report = .error failure → ∃ digits, digits <:+: report ∧
      (∀ c ∈ digits, Text.isDigit c = true) ∧ Failure.digitLimit < digits.length ∧
      failure = .tooManyDigits digits.length := by
  rw [parse_eq_conclude]
  constructor
  · rw [exists_conclude_eq_ok_iff]
    simp only [isOverlong, decide_eq_false_iff_not, Nat.not_lt]
  · intro failure failed
    unfold conclude at failed
    split at failed
    next digits found =>
      obtain ⟨entry, among, written⟩ := List.mem_flatMap.mp (List.mem_of_find?_eq_some found)
      obtain ⟨line, isLine, isLocation⟩ := exists_line_of_mem_reported among
      obtain ⟨inLine, areDigits⟩ := Location.isInfix_of_ofLine? isLocation digits written
      have overlong : isOverlong digits = true := List.find?_some found
      exact ⟨digits, inLine.trans (Text.isInfix_of_mem_reportLines isLine), areDigits,
        of_decide_eq_true overlong, (Except.error.inj failed).symm⟩
    next => cases failed

/-- A report of one location in a line with too long a number. -/
theorem parse_of_overlong {digits : Text} (areDigits : ∀ c ∈ digits, Text.isDigit c = true)
    (overlong : Failure.digitLimit < digits.length) :
    parse ("  x" ++ ':' :: digits ++ ':' :: "1") = .error (.tooManyDigits digits.length) := by
  have nonempty : digits ≠ [] := List.ne_nil_of_length_pos (Nat.zero_lt_of_lt overlong)
  have one : '\n' ∉ (("  x" : Text) ++ ':' :: digits ++ ':' :: "1" : Text) := by
    intro member
    have isDigit : Text.isDigit '\n' = true := areDigits '\n' (by simpa using member)
    exact absurd isDigit (by decide)
  have speaks : Text.isBlankText ("  x" ++ ':' :: digits ++ ':' :: "1") = false :=
    Text.isBlankText_eq_false (c := 'x') (by simp) (by decide)
  have read : Location.ofLine? ("  x" ++ ':' :: digits ++ ':' :: "1") =
      some ⟨"  x", digits, "1"⟩ := by
    have indented : Location.indent <+: (("  x" : Text) ++ ':' :: digits ++ ':' :: "1" : Text) :=
      ⟨"x" ++ ':' :: digits ++ ':' :: "1", rfl⟩
    have lastIsNumeral : Location.IsNumeral "1" := ⟨by decide, List.all_eq_true.mp (by decide)⟩
    have fileIsOneLine : '\n' ∉ ("  x" : Text) := by decide
    exact Location.ofLine?_eq_some_iff.mpr
      ⟨indented, .inl rfl, fileIsOneLine, ⟨nonempty, areDigits⟩, lastIsNumeral⟩
  rw [parse, Text.reportLines_whole one, Reader.read_singleton, Reader.told_eq_conclude _ speaks,
    read]
  change conclude [(([] : Text), (⟨"  x", digits, "1"⟩ : Location))] = _
  rw [conclude_singleton, Location.diagnostic, Location.number, if_pos overlong]
  rfl

/-- A location whose line number has one digit too many. -/
def overlongReport : Text := "  x" ++ ':' :: List.replicate 4301 '1' ++ ':' :: "1"

theorem overlong_numeral_stops : parse overlongReport = .error (.tooManyDigits 4301) := by
  have areDigits : ∀ c ∈ List.replicate 4301 '1', Text.isDigit c = true := by
    intro c member
    rw [List.eq_of_mem_replicate member]
    decide
  have stops := parse_of_overlong areDigits (by rw [List.length_replicate]; decide)
  rwa [List.length_replicate] at stops

end Report

end CueWatch
