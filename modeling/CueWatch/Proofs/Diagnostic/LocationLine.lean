import CueWatch.Diagnostic.Report
import Mathlib.Data.List.Basic
import Mathlib.Data.List.TakeWhile

/-!
Contract: which lines are locations, and of what.

A location line is read from its end: digits, a colon, digits, a colon, and the path is all that is
left. Here the same lines are told by how they are written, and a line turns out to be written in at
most one way, although a path may hold colons and end like a location itself.

Owns:
- `IsNumeral`, a run of digits, and `Location.text`, a location as it is written;
- `Spells`, the lines in which a location is written;
- that a line is read as a location exactly if it spells this location.

Does not own: what the numerals are worth, and which message governs a location (`LookBack`).
-/

namespace CueWatch.Location

/-- A run of decimal digits, which may be of any script. -/
structure IsNumeral (digits : Text) : Prop where
  nonempty : digits ≠ []
  areDigits : ∀ c ∈ digits, Text.isDigit c = true

/-- A location as it is written: its parts with colons between them. -/
def text (location : Location) : Text :=
  location.file ++ ':' :: location.line ++ ':' :: location.column

/-- A line in which a location is written: it is indented, it has at most a newline after the
location, the path is on one line, and the other two parts are numerals. -/
structure Spells (line : Text) (location : Location) : Prop where
  indented : indent <+: line
  written : line = location.text ∨ line = location.text ++ ['\n']
  fileIsOneLine : '\n' ∉ location.file
  lineIsNumeral : IsNumeral location.line
  columnIsNumeral : IsNumeral location.column

/-! ### Digits at the end of a text -/

/-- The digits at the end of a text are split from the colon before them. -/
theorem splitNumber?_append (before : Text) {digits : Text} (isNumeral : IsNumeral digits) :
    splitNumber? (before ++ ':' :: digits) = some (before, digits) := by
  have areDigitsBack : ∀ c ∈ digits.reverse, Text.isDigit c = true :=
    fun c member => isNumeral.areDigits c (List.mem_reverse.mp member)
  have colonEnds : Text.isDigit ':' = false := by decide
  have back : (before ++ ':' :: digits).reverse = digits.reverse ++ ':' :: before.reverse := by
    simp
  have taken : (before ++ ':' :: digits).reverse.takeWhile Text.isDigit = digits.reverse := by
    rw [back, List.takeWhile_append_of_pos areDigitsBack,
      List.takeWhile_cons_of_neg (by simp [colonEnds]), List.append_nil]
  have left : (before ++ ':' :: digits).reverse.dropWhile Text.isDigit = ':' :: before.reverse := by
    rw [back, List.dropWhile_append_of_pos areDigitsBack,
      List.dropWhile_cons_of_neg (by simp [colonEnds])]
  obtain ⟨first, rest, rfl⟩ := List.exists_cons_of_ne_nil isNumeral.nonempty
  simp only [splitNumber?, taken, left, List.reverse_reverse]

/-- Digits are split off only from a colon before them, and they are all digits at the end. -/
theorem eq_of_splitNumber? {t before digits : Text}
    (split : splitNumber? t = some (before, digits)) :
    t = before ++ ':' :: digits ∧ IsNumeral digits := by
  have whole := List.takeWhile_append_dropWhile (p := Text.isDigit) (l := t.reverse)
  have areDigits : ∀ c ∈ t.reverse.takeWhile Text.isDigit, Text.isDigit c = true :=
    fun c member => List.mem_takeWhile_imp member
  unfold splitNumber? at split
  generalize t.reverse.takeWhile Text.isDigit = back at split whole areDigits
  generalize t.reverse.dropWhile Text.isDigit = left at split whole
  dsimp only at split
  split at split
  next first rest behind isSome =>
    obtain ⟨rfl, rfl⟩ := Prod.mk.inj (Option.some.inj split)
    refine ⟨?_, ?_, fun c member => areDigits c (List.mem_reverse.mp member)⟩
    · rw [← List.reverse_reverse t, ← whole]
      simp
    · rw [isSome]
      exact List.cons_ne_nil first rest
  next => cases split

theorem splitNumber?_eq_some_iff {t before digits : Text} :
    splitNumber? t = some (before, digits) ↔ t = before ++ ':' :: digits ∧ IsNumeral digits := by
  constructor
  · exact eq_of_splitNumber?
  · rintro ⟨rfl, isNumeral⟩
    exact splitNumber?_append before isNumeral

/-! ### Locations without their line -/

/-- A text is read as a location exactly if it is the location as written. -/
theorem ofText?_eq_some_iff {t : Text} {location : Location} :
    ofText? t = some location ↔
      t = location.text ∧ location.file ≠ [] ∧ IsNumeral location.line ∧
        IsNumeral location.column := by
  constructor
  · intro read
    unfold ofText? at read
    split at read
    next => cases read
    next before column last =>
      split at read
      next => cases read
      next file line first =>
        obtain ⟨written, columnIsNumeral⟩ := splitNumber?_eq_some_iff.mp last
        obtain ⟨writtenBefore, lineIsNumeral⟩ := splitNumber?_eq_some_iff.mp first
        split at read
        next => cases read
        next named =>
          obtain rfl := Option.some.inj read
          rw [writtenBefore] at written
          exact ⟨written, by simpa using named, lineIsNumeral, columnIsNumeral⟩
  · rintro ⟨rfl, named, lineIsNumeral, columnIsNumeral⟩
    have isNamed : location.file.isEmpty = false := by simpa using named
    rw [ofText?, text, splitNumber?_append _ columnIsNumeral]
    simp only [splitNumber?_append _ lineIsNumeral, isNamed, Bool.false_eq_true, if_false]

/-! ### Lines -/

theorem withoutNewline_of_not_mem {line : Text} (one : '\n' ∉ line) :
    withoutNewline line = line := by
  rw [withoutNewline, if_neg]
  exact fun last => one (List.mem_of_getLast? last)

theorem withoutNewline_append (line : Text) : withoutNewline (line ++ ['\n']) = line := by
  rw [withoutNewline, if_pos List.getLast?_concat, List.dropLast_concat]

/-- Nothing but one newline at the end of a line is left out. -/
theorem eq_withoutNewline (line : Text) :
    line = withoutNewline line ∨ line = withoutNewline line ++ ['\n'] := by
  unfold withoutNewline
  split
  next last =>
    right
    exact (List.dropLast_append_getLast? '\n' last).symm
  next => left; rfl

/-- A location on one line is not indented by anything but its path. -/
theorem Spells.indent_isPrefix_file {line : Text} {location : Location}
    (spells : Spells line location) : indent <+: location.file := by
  have begins : ∃ rest, line = location.file ++ ':' :: rest := by
    rcases spells.written with written | written <;> simp [written, text]
  obtain ⟨rest, begins⟩ := begins
  have indented := spells.indented
  rw [begins] at indented
  match file : location.file with
  | [] => simp [file, indent] at indented
  | [c] => simp [file, indent] at indented
  | c :: d :: more => simpa [file, indent] using indented

theorem Spells.newline_not_mem_text {line : Text} {location : Location}
    (spells : Spells line location) : '\n' ∉ location.text := by
  have noDigit : Text.isDigit '\n' = false := by decide
  have notIn : ∀ {digits : Text}, IsNumeral digits → '\n' ∉ digits := by
    intro digits isNumeral member
    rw [isNumeral.areDigits '\n' member] at noDigit
    cases noDigit
  simp [text, spells.fileIsOneLine, notIn spells.lineIsNumeral, notIn spells.columnIsNumeral]

/-- A line is read as a location exactly if it spells this location. -/
theorem ofLine?_eq_some_iff {line : Text} {location : Location} :
    ofLine? line = some location ↔ Spells line location := by
  unfold ofLine?
  constructor
  · intro read
    split at read
    next isLine =>
      rw [Bool.and_eq_true, List.isPrefixOf_iff_prefix] at isLine
      obtain ⟨indented, one⟩ := isLine
      obtain ⟨written, -, lineIsNumeral, columnIsNumeral⟩ := ofText?_eq_some_iff.mp read
      have oneLine : '\n' ∉ location.text := by rw [← written]; simpa using one
      refine ⟨indented, ?_, ?_, lineIsNumeral, columnIsNumeral⟩
      · rw [← written]
        exact eq_withoutNewline line
      · intro member
        exact oneLine (by simp [text, member])
    next => cases read
  · intro spells
    have oneLine := spells.newline_not_mem_text
    have whole : withoutNewline line = location.text := by
      rcases spells.written with written | written
      · rw [written, withoutNewline_of_not_mem oneLine]
      · rw [written, withoutNewline_append]
    have named : location.file ≠ [] := by
      intro none
      have indented := spells.indent_isPrefix_file
      rw [none] at indented
      exact absurd (List.prefix_nil.mp indented) (by decide)
    have isLine : (indent.isPrefixOf line && !(withoutNewline line).contains '\n') = true := by
      rw [whole, Bool.and_eq_true, List.isPrefixOf_iff_prefix]
      exact ⟨spells.indented, by simpa using oneLine⟩
    rw [if_pos isLine, whole]
    exact ofText?_eq_some_iff.mpr ⟨rfl, named, spells.lineIsNumeral, spells.columnIsNumeral⟩

/-- A line that does not begin with a space is no location. -/
theorem ofLine?_eq_none {line : Text} (flush : line.head? ≠ some ' ') : ofLine? line = none := by
  rw [Option.eq_none_iff_forall_ne_some]
  intro location read
  obtain ⟨rest, rfl⟩ := (ofLine?_eq_some_iff.mp read).indented
  exact flush rfl

/-- Lines are read as locations exactly if they spell one. No line spells two, and the path always
begins with the indent of the line. -/
theorem lines_spell_one_location (line : Text) :
    (∀ location, ofLine? line = some location ↔ Spells line location) ∧
    (∀ first second, Spells line first → Spells line second → first = second) ∧
    (∀ location, Spells line location → indent <+: location.file) ∧
    ((∀ location, ¬ Spells line location) → ofLine? line = none) := by
  refine ⟨fun location => ofLine?_eq_some_iff, ?_, fun _ => Spells.indent_isPrefix_file, ?_⟩
  · intro first second spellsFirst spellsSecond
    have readFirst := ofLine?_eq_some_iff.mpr spellsFirst
    rw [ofLine?_eq_some_iff.mpr spellsSecond] at readFirst
    exact (Option.some.inj readFirst).symm
  · intro spellsNone
    rw [Option.eq_none_iff_forall_ne_some]
    intro location read
    exact spellsNone location (ofLine?_eq_some_iff.mp read)

/-- A path that looks like a location itself, digits of another script, and a newline. -/
example : ofLine? "  a.cue:1:2:٣:4\n" = some ⟨"  a.cue:1:2", "٣", "4"⟩ := by decide +kernel

end CueWatch.Location
