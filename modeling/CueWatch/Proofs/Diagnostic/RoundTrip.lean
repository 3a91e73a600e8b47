import CueWatch.Proofs.Diagnostic.LocationLine
import CueWatch.Proofs.Diagnostic.LookBack
import CueWatch.Proofs.Text.Numeral
import CueWatch.Proofs.Text.Trim

/-!
Contract: reports as `cue` writes them, and that reading one gives back what was written.

Owns:
- `Group`, a message with the locations it is about, and the lines in which it is written;
- `Layout`, the texts that lines make up: each line is ended in one of two ways, blank lines stand
  anywhere between them, and the last line need not be ended;
- the location that is read from a written location line, and the findings of a whole report.

Does not own: reports that are written in another form (`LookBack`).
-/

namespace CueWatch

namespace Report

/-! ### Writing -/

/-- A place in a file as `cue` reports it: the line counted from zero, the column as it is. The
numbers have no more digits than a reader takes. -/
structure Mention where
  file : Text
  line : Nat
  column : Nat
  fileIsOneLine : '\n' ∉ file
  fileIsTight : Text.IsTight file
  lineIsReadable : line + 1 < 10 ^ Failure.digitLimit
  columnIsReadable : column < 10 ^ Failure.digitLimit

/-- A message and the places that it is about. -/
structure Group where
  message : Text
  mentions : List Mention
  messageIsOneLine : '\n' ∉ message
  messageIsFlush : ∀ c ∈ message.head?, Text.isBlank c = false

/-- The indent of written locations. -/
def writtenIndent : Text := "    "

/-- A place as a line: lines are counted from one there. -/
def Mention.text (mention : Mention) : Text :=
  writtenIndent ++ mention.file ++ ':' :: Text.decimal (mention.line + 1) ++
    ':' :: Text.decimal mention.column

/-- The line of a message. -/
def Group.headline (group : Group) : Text := group.message ++ [':']

/-- The lines of a group. -/
def Group.lines (group : Group) : List Text := group.headline :: group.mentions.map Mention.text

/-- The finding at a place. -/
def Mention.finding (message : Text) (mention : Mention) : Diagnostic :=
  { line := mention.line
    column := mention.column
    severity := Diagnostic.errorSeverity
    message := message
    file := mention.file }

/-- What a group reports: nothing, if its message says that a value is incomplete. -/
def Group.findings (group : Group) : List Diagnostic :=
  if incompleteMark <:+: group.message then []
  else group.mentions.map (Mention.finding group.message)

/-- The texts that lines make up, with blank lines anywhere and every line but the last ended in
one of the two ways. -/
inductive Layout : List Text → Text → Prop
  | line {rest : List Text} {report : Text} (line : Text) (lineEnd : Text.LineEnd)
      (below : Layout rest report) : Layout (line :: rest) (line ++ lineEnd.text ++ report)
  | blank {lines : List Text} {report : Text} (blank : Text) (lineEnd : Text.LineEnd)
      (isOneLine : '\n' ∉ blank) (isBlank : ∀ c ∈ blank, Text.isBlank c = true)
      (below : Layout lines report) : Layout lines (blank ++ lineEnd.text ++ report)
  | lastLine (line : Text) : Layout [line] line
  | lastBlank (blank : Text) (isOneLine : '\n' ∉ blank)
      (isBlank : ∀ c ∈ blank, Text.isBlank c = true) : Layout [] blank

open LookBack

/-! ### The lines of a layout -/

/-- A line that a reader of lines gives back as it was written. -/
structure IsPlain (line : Text) : Prop where
  isOneLine : '\n' ∉ line
  keepsReturn : ¬ ['\r'] <:+ line
  speaks : Text.isBlankText line = false

/-- A line that ends with a character that is no blank is plain. -/
theorem isPlain_of_ends {line : Text} {c : Char} (isOneLine : '\n' ∉ line)
    (last : line.getLast? = some c) (solid : Text.isBlank c = false) : IsPlain line where
  isOneLine := isOneLine
  keepsReturn := by
    rw [List.singleton_suffix_iff_getLast?_eq_some, last]
    intro isReturn
    rw [Option.some.inj isReturn] at solid
    exact absurd solid (by decide)
  speaks := Text.isBlankText_eq_false (List.mem_of_getLast? last) solid

theorem spoken_cons_of_speaks {line : Text} (speaks : Text.isBlankText line = false)
    (rest : List Text) : spoken (line :: rest) = line :: spoken rest :=
  List.filter_cons_of_pos (by simp [speaks])

theorem spoken_cons_of_blank {line : Text} (blank : ∀ c ∈ line, Text.isBlank c = true)
    (rest : List Text) : spoken (line :: rest) = spoken rest :=
  List.filter_cons_of_neg (by simp [(Text.isBlankText_iff line).mpr blank])

/-- However plain lines are laid out, they are what the report says. -/
theorem spoken_of_layout {lines : List Text} {report : Text} (layout : Layout lines report)
    (plain : ∀ line ∈ lines, IsPlain line) : spoken (Text.reportLines report) = lines := by
  induction layout with
  | line line lineEnd _ inductionHypothesis =>
      have here := plain line List.mem_cons_self
      have below := inductionHypothesis fun other member =>
        plain other (List.mem_cons_of_mem line member)
      rw [Text.reportLines_ended here.isOneLine here.keepsReturn,
        spoken_cons_of_speaks here.speaks, below]
  | blank blank lineEnd isOneLine isBlank _ inductionHypothesis =>
      obtain ⟨read, ofBlank, first⟩ := Text.exists_reportLines_ended isOneLine lineEnd _
      have readIsBlank : ∀ c ∈ read, Text.isBlank c = true :=
        fun c member => isBlank c (ofBlank member)
      rw [first, spoken_cons_of_blank readIsBlank]
      exact inductionHypothesis plain
  | lastLine line =>
      have here := plain line List.mem_cons_self
      rw [Text.reportLines_whole here.isOneLine, spoken_cons_of_speaks here.speaks]
      rfl
  | lastBlank blank isOneLine isBlank =>
      rw [Text.reportLines_whole isOneLine, spoken_cons_of_blank isBlank]
      rfl

/-! ### Reading what was written -/

theorem not_mem_decimal {c : Char} (noDigit : Text.isDigit c = false) (n : Nat) :
    c ∉ Text.decimal n := by
  intro member
  rw [Text.isDigit_of_mem_decimal n c member] at noDigit
  exact Bool.noConfusion noDigit

theorem Mention.newline_not_mem_text (mention : Mention) : '\n' ∉ mention.text := by
  have noDigit : Text.isDigit '\n' = false := by decide
  simp [Mention.text, writtenIndent, mention.fileIsOneLine, not_mem_decimal noDigit]

/-- The location that is read from a written place. -/
theorem Mention.ofLine?_text (mention : Mention) :
    Location.ofLine? mention.text =
      some ⟨writtenIndent ++ mention.file, Text.decimal (mention.line + 1),
        Text.decimal mention.column⟩ := by
  have indented : Location.indent <+: mention.text :=
    ⟨' ' :: ' ' :: mention.file ++ ':' :: Text.decimal (mention.line + 1) ++
      ':' :: Text.decimal mention.column, rfl⟩
  have fileIsOneLine : '\n' ∉ writtenIndent ++ mention.file := by
    simp [writtenIndent, mention.fileIsOneLine]
  exact Location.ofLine?_eq_some_iff.mpr ⟨indented, .inl rfl, fileIsOneLine,
    ⟨Text.decimal_ne_nil _, Text.isDigit_of_mem_decimal _⟩,
    ⟨Text.decimal_ne_nil _, Text.isDigit_of_mem_decimal _⟩⟩

theorem number_decimal {n : Nat} (readable : n < 10 ^ Failure.digitLimit) :
    Location.number (Text.decimal n) = .ok n := by
  have short := Text.length_decimal_le (by decide : 0 < Failure.digitLimit) readable
  rw [Location.number, if_neg (Nat.not_lt.mpr short), Text.numeralValue_decimal]

/-- The finding at the location that is read is the one that was written. -/
theorem Mention.diagnostic_written (message : Text) (mention : Mention) :
    Location.diagnostic message ⟨writtenIndent ++ mention.file, Text.decimal (mention.line + 1),
      Text.decimal mention.column⟩ = .ok (mention.finding message) := by
  have trimmed : Text.trim (writtenIndent ++ mention.file) = mention.file := by
    rw [Text.trim_append_of_blank (List.all_eq_true.mp rfl),
      Text.trim_of_isTight mention.fileIsTight]
  simp only [Location.diagnostic, number_decimal mention.lineIsReadable,
    number_decimal mention.columnIsReadable, trimmed, Mention.finding]
  simp

theorem isBlank_digitChar : ∀ n < 10, Text.isBlank (Text.digitChar n) = false := by
  decide

theorem Mention.isPlain_text (mention : Mention) : IsPlain mention.text := by
  have last : mention.text.getLast? = some (Text.digitChar (mention.column % 10)) := by
    rw [Mention.text, List.getLast?_append, List.getLast?_cons, Text.getLast?_decimal]
    rfl
  exact isPlain_of_ends mention.newline_not_mem_text last
    (isBlank_digitChar _ (Nat.mod_lt _ (by decide)))

theorem Group.isPlain_headline (group : Group) : IsPlain group.headline := by
  have isOneLine : '\n' ∉ group.headline := by simp [Group.headline, group.messageIsOneLine]
  exact isPlain_of_ends isOneLine List.getLast?_concat (by decide)

theorem Group.isPlain_of_mem_lines (group : Group) : ∀ line ∈ group.lines, IsPlain line := by
  intro line member
  rcases List.mem_cons.mp member with isHeadline | isMention
  · rw [isHeadline]
    exact group.isPlain_headline
  · obtain ⟨mention, _, rfl⟩ := List.mem_map.mp isMention
    exact mention.isPlain_text

/-- The first character of a headline is no blank: it is that of the message or the colon. -/
theorem Group.isTight_headline (group : Group) : Text.IsTight group.headline where
  starts := by
    intro c first
    unfold Group.headline at first
    cases message : group.message with
    | nil =>
        rw [message] at first
        obtain rfl : ':' = c := by simpa using first
        decide
    | cons d rest =>
        rw [message] at first
        obtain rfl : d = c := by simpa using first
        exact group.messageIsFlush d (by simp [message])
  ends := by
    intro c last
    rw [Group.headline, List.getLast?_concat] at last
    obtain rfl : ':' = c := by simpa using last
    decide +kernel

/-- A headline puts the message in force. -/
theorem Reader.feed_headline (reader : Reader) (group : Group) :
    reader.feed group.headline = ⟨⟨.location, group.message⟩, .ok none, false⟩ := by
  have noLocation : Location.ofLine? group.headline = none := by
    refine Location.ofLine?_eq_none fun first => ?_
    have solid := group.isTight_headline.starts ' ' (by simp [first])
    exact absurd solid (by decide)
  have message : messageOf group.headline = group.message := by
    rw [messageOf, Text.trim_of_isTight group.isTight_headline]
    simp [Group.headline]
  rw [Reader.feed, if_neg (by simp [group.isPlain_headline.speaks]), noLocation, message]

/-- Under a message, a written place gives its finding, or nothing if the message is suppressed. -/
theorem Reader.feed_mention (message : Text) (mention : Mention) :
    Reader.feed ⟨.location, message⟩ mention.text =
      ⟨⟨.location, message⟩,
        .ok (if incompleteMark <:+: message then none else some (mention.finding message)),
        false⟩ := by
  rw [Reader.feed, if_neg (by simp [mention.isPlain_text.speaks]), mention.ofLine?_text]
  simp only [Reader.isSuppressed, Text.occurs_iff_isInfix, mention.diagnostic_written]
  split <;> rfl

theorem Reader.read_mentions (message : Text) (mentions : List Mention) :
    Reader.read ⟨.location, message⟩ (mentions.map Mention.text) =
      .ok (if incompleteMark <:+: message then []
        else mentions.map (Mention.finding message)) := by
  induction mentions with
  | nil => simp [Reader.read]
  | cons mention mentions inductionHypothesis =>
      rw [List.map_cons, Reader.read_cons, Reader.told, Reader.feed_mention, inductionHypothesis]
      by_cases suppressed : incompleteMark <:+: message
      · simp only [if_pos suppressed]
        rfl
      · simp only [if_neg suppressed]
        rfl

/-- A group gives its findings, whatever message was in force before it. -/
theorem Reader.read_group (reader : Reader) (group : Group) :
    reader.read group.lines = .ok group.findings := by
  rw [Group.lines, Reader.read_cons, Reader.told, reader.feed_headline, Reader.read_mentions]
  rfl

theorem Reader.read_groups (reader : Reader) (groups : List Group) :
    reader.read (groups.flatMap Group.lines) = .ok (groups.flatMap Group.findings) := by
  induction groups generalizing reader with
  | nil => rfl
  | cons group groups inductionHypothesis =>
      rw [List.flatMap_cons, Reader.read_append, Reader.read_group, List.flatMap_cons,
        Except.bind, inductionHypothesis]
      rfl

/-- Reading gives back what was written, however the lines are ended and wherever blank lines
stand. -/
theorem parse_of_layout {groups : List Group} {report : Text}
    (layout : Layout (groups.flatMap Group.lines) report) :
    parse report = .ok (groups.flatMap Group.findings) := by
  have plain : ∀ line ∈ groups.flatMap Group.lines, IsPlain line := by
    intro line member
    obtain ⟨group, _, ofGroup⟩ := List.mem_flatMap.mp member
    exact group.isPlain_of_mem_lines line ofGroup
  rw [parse, ← Reader.read_spoken, spoken_of_layout layout plain]
  exact Reader.read_groups Reader.initial groups

theorem readable_of_lt_ten {n : Nat} (small : n < 10) : n < 10 ^ Failure.digitLimit :=
  Nat.lt_of_lt_of_le small (Nat.le_self_pow (by decide) 10)

/-- A place in a file whose path looks like a location itself. -/
def confusingMention : Mention where
  file := "a.cue:12:3"
  line := 2
  column := 7
  fileIsOneLine := by decide
  fileIsTight := ⟨by rintro c ⟨⟩; decide, by rintro c ⟨⟩; decide⟩
  lineIsReadable := readable_of_lt_ten (by decide)
  columnIsReadable := readable_of_lt_ten (by decide)

/-- A message that ends with a colon and a blank, about a place. -/
def oddGroup : Group where
  message := "odd: "
  mentions := [confusingMention]
  messageIsOneLine := by decide
  messageIsFlush := by rintro c ⟨⟩; decide

/-- A message that is suppressed, about the same place. -/
def incompleteGroup : Group where
  message := "incomplete value"
  mentions := [confusingMention]
  messageIsOneLine := by decide
  messageIsFlush := by rintro c ⟨⟩; decide

/-- Both groups in a report with both ways to end a line, a blank line that holds a tab, and a last
line that is not ended. -/
def confusingReport : Text :=
  "odd: :\r\n\t\r\n    a.cue:12:3:3:7\nincomplete value:\n    a.cue:12:3:3:7"

theorem parse_confusingReport :
    Layout ([oddGroup, incompleteGroup].flatMap Group.lines) confusingReport ∧
      parse confusingReport = .ok [⟨2, 7, "error", "odd: ", "a.cue:12:3"⟩] := by
  have written : confusingReport =
      oddGroup.headline ++ Text.LineEnd.returnNewline.text ++
        (['\t'] ++ Text.LineEnd.returnNewline.text ++
          (confusingMention.text ++ Text.LineEnd.newline.text ++
            (incompleteGroup.headline ++ Text.LineEnd.newline.text ++ confusingMention.text))) := by
    decide +kernel
  have layout : Layout ([oddGroup, incompleteGroup].flatMap Group.lines) confusingReport := by
    rw [written]
    refine .line oddGroup.headline .returnNewline ?_
    refine .blank ['\t'] .returnNewline (by decide) (List.all_eq_true.mp rfl) ?_
    refine .line confusingMention.text .newline ?_
    refine .line incompleteGroup.headline .newline ?_
    exact .lastLine confusingMention.text
  exact ⟨layout, parse_of_layout layout⟩

end Report

end CueWatch
