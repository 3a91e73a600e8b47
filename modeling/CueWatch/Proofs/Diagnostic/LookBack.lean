import CueWatch.Diagnostic.Report
import CueWatch.Proofs.Text.Lines

/-!
Contract: what a report says, read by looking back.

The reader of reports goes forward and remembers the message in force. Here a location is given its
message by looking back from it, with nothing remembered, and both readings are shown to agree.

Owns:
- `located`, each location of a report with the message that governs it;
- `conclude`, which makes findings of locations, and the first overlong numeral that prevents it;
- the run of the forward reader over lines, and its agreement with looking back.

Does not own: the form of a location line (`Location.ofLine?`).
-/

namespace CueWatch.Report

namespace LookBack

/-! ### Looking back -/

/-- The lines that say something. -/
def spoken (lines : List Text) : List Text := lines.filter fun line => !Text.isBlankText line

/-- Whether a line that says something is a message. -/
def isMessage (line : Text) : Bool := (Location.ofLine? line).isNone

/-- What a message line says: one colon at its end does not belong to it. -/
def messageText (line : Text) : Text :=
  if [':'] <:+ Text.trim line then (Text.trim line).dropLast else Text.trim line

/-- The message that governs a location: that of the nearest message line before it, and the empty
one if there is none. -/
def governing (earlier : List Text) : Text :=
  ((earlier.reverse.find? isMessage).map messageText).getD []

/-- The location at a line number, with the message that governs it. -/
def locatedAt (lines : List Text) (index : Nat) : Option (Text × Location) :=
  (lines[index]?.bind Location.ofLine?).map fun location =>
    (governing (lines.take index), location)

/-- The locations in the order of their lines. -/
def located (lines : List Text) : List (Text × Location) :=
  (List.range lines.length).filterMap (locatedAt lines)

/-- Whether a location is reported: its message does not say that a value is incomplete. -/
def isReported (entry : Text × Location) : Bool := !decide (incompleteMark <:+: entry.1)

/-- The locations that a report reports. -/
def reported (report : Text) : List (Text × Location) :=
  (located (spoken (Text.unended (Text.splitOn '\n' report)))).filter isReported

/-- The numerals of a location in the order in which they are read. -/
def numerals (entry : Text × Location) : List Text := [entry.2.line, entry.2.column]

/-- Whether a numeral has too many digits. -/
def isOverlong (digits : Text) : Bool := Failure.digitLimit < digits.length

/-- The finding at a location. -/
def finding (entry : Text × Location) : Diagnostic :=
  { line := (Text.numeralValue entry.2.line : Int) - 1
    column := Text.numeralValue entry.2.column
    severity := Diagnostic.errorSeverity
    message := entry.1
    file := Text.trim entry.2.file }

/-- One finding for each location, unless a numeral has too many digits; the first such numeral is
complained about. -/
def conclude (entries : List (Text × Location)) : Except Failure (List Diagnostic) :=
  match (entries.flatMap numerals).find? isOverlong with
  | some digits => .error (.tooManyDigits digits.length)
  | none => .ok (entries.map finding)

/-! ### One more line at the end -/

theorem governing_concat_of_message (lines : List Text) {line : Text}
    (message : isMessage line = true) : governing (lines ++ [line]) = messageText line := by
  simp [governing, message]

theorem governing_concat_of_location (lines : List Text) {line : Text}
    (location : isMessage line = false) : governing (lines ++ [line]) = governing lines := by
  simp [governing, location]

theorem locatedAt_append (lines more : List Text) {index : Nat} (within : index < lines.length) :
    locatedAt (lines ++ more) index = locatedAt lines index := by
  unfold locatedAt
  rw [List.getElem?_append_left within, List.take_append_of_le_length (Nat.le_of_lt within)]

theorem located_concat (lines : List Text) (line : Text) :
    located (lines ++ [line]) = located lines ++
      ((Location.ofLine? line).map fun location => (governing lines, location)).toList := by
  have earlier : (List.range lines.length).filterMap (locatedAt (lines ++ [line])) =
      located lines := by
    refine List.filterMap_congr fun index member => ?_
    exact locatedAt_append lines [line] (List.mem_range.mp member)
  have last : locatedAt (lines ++ [line]) lines.length =
      (Location.ofLine? line).map fun location => (governing lines, location) := by
    rw [locatedAt, List.getElem?_concat_length, List.take_left, Option.bind_some]
  rw [located, List.length_append, List.length_singleton, List.range_succ, List.filterMap_append,
    earlier, List.filterMap_cons, last]
  cases Location.ofLine? line <;> rfl

/-! ### Findings of several locations -/

/-- Locations are concluded upon one after another. -/
theorem conclude_append (first second : List (Text × Location)) :
    conclude (first ++ second) =
      (conclude first).bind fun findings => (conclude second).map (findings ++ ·) := by
  unfold conclude
  rw [List.flatMap_append, List.find?_append]
  cases (first.flatMap numerals).find? isOverlong with
  | some digits => rfl
  | none =>
      cases (second.flatMap numerals).find? isOverlong with
      | some digits => rfl
      | none => simp [Except.bind, Except.map]

/-- One location is concluded upon as the forward reader does it. -/
theorem conclude_singleton (message : Text) (location : Location) :
    conclude [(message, location)] = (location.diagnostic message).map ([·]) := by
  by_cases lineFits : Failure.digitLimit < location.line.length <;>
    by_cases columnFits : Failure.digitLimit < location.column.length <;>
    simp [conclude, numerals, isOverlong, Location.diagnostic, Location.number, lineFits,
      columnFits, Except.map, finding]

end LookBack

open LookBack

/-! ### The forward reader -/

theorem Reader.feed_blank (reader : Reader) {line : Text} (blank : Text.isBlankText line = true) :
    reader.feed line = ⟨reader, .ok none, false⟩ := by
  rw [Reader.feed, if_pos blank]

/-- A message line is fed in the same way to all readers: it replaces the message in force, and
nothing is reported. -/
theorem Reader.feed_message (reader : Reader) {line : Text} (speaks : Text.isBlankText line = false)
    (message : isMessage line = true) :
    reader.feed line = ⟨⟨.location, messageOf line⟩, .ok none, false⟩ := by
  have noLocation : Location.ofLine? line = none := Option.isNone_iff_eq_none.mp message
  rw [Reader.feed, if_neg (by simp [speaks]), noLocation]

/-- At a location the reader no longer expects a message, and keeps the one in force. -/
theorem Reader.feed_location (reader : Reader) {line : Text} {location : Location}
    (speaks : Text.isBlankText line = false) (read : Location.ofLine? line = some location) :
    reader.feed line =
      { reader := { reader with expectation := .location }
        finding :=
          if reader.isSuppressed then .ok none
          else (location.diagnostic reader.message).map some
        isOrphan := reader.expectation == .message } := by
  rw [Reader.feed, if_neg (by simp [speaks]), read]

/-- The reader after several lines. -/
def Reader.after (reader : Reader) (lines : List Text) : Reader :=
  lines.foldl (fun reader line => (reader.feed line).reader) reader

/-- What one line reports, as a list. -/
def Reader.told (reader : Reader) (line : Text) : Except Failure (List Diagnostic) :=
  (reader.feed line).finding.map Option.toList

theorem Reader.read_cons (reader : Reader) (line : Text) (rest : List Text) :
    reader.read (line :: rest) =
      (reader.told line).bind fun findings =>
        ((reader.feed line).reader.read rest).map (findings ++ ·) := by
  rw [Reader.read, Reader.told]
  cases (reader.feed line).finding with
  | error failure => rfl
  | ok finding =>
      cases finding with
      | none => cases (reader.feed line).reader.read rest <;> rfl
      | some diagnostic => rfl

theorem Reader.read_singleton (reader : Reader) (line : Text) :
    reader.read [line] = reader.told line := by
  rw [Reader.read_cons]
  cases reader.told line <;> simp [Reader.read, Except.bind, Except.map]

/-- Lines are read one part after the other. -/
theorem Reader.read_append (reader : Reader) (first second : List Text) :
    reader.read (first ++ second) =
      (reader.read first).bind fun findings =>
        ((reader.after first).read second).map (findings ++ ·) := by
  induction first generalizing reader with
  | nil =>
      change reader.read second = (reader.read second).map ([] ++ ·)
      cases reader.read second <;> rfl
  | cons line first inductionHypothesis =>
      rw [List.cons_append, Reader.read_cons, Reader.read_cons, inductionHypothesis]
      change _ = Except.bind _ fun findings =>
        (((reader.feed line).reader.after first).read second).map (findings ++ ·)
      cases reader.told line with
      | error failure => rfl
      | ok told =>
          cases (reader.feed line).reader.read first with
          | error failure => rfl
          | ok findings =>
              cases ((reader.feed line).reader.after first).read second with
              | error failure => rfl
              | ok later => simp [Except.bind, Except.map]

/-- A blank line changes nothing. -/
theorem Reader.read_blank (reader : Reader) {line : Text} (blank : Text.isBlankText line = true)
    (rest : List Text) : reader.read (line :: rest) = reader.read rest := by
  simp [Reader.read, Reader.feed, blank]

/-- Only lines that say something count. -/
theorem Reader.read_spoken (reader : Reader) (lines : List Text) :
    reader.read (spoken lines) = reader.read lines := by
  induction lines generalizing reader with
  | nil => rfl
  | cons line rest inductionHypothesis =>
      by_cases blank : Text.isBlankText line = true
      · have dropped : spoken (line :: rest) = spoken rest := by simp [spoken, blank]
        rw [dropped, Reader.read_blank reader blank, inductionHypothesis]
      · have kept : spoken (line :: rest) = line :: spoken rest := by simp [spoken, blank]
        rw [kept, Reader.read_cons, Reader.read_cons, inductionHypothesis]

/-! ### Both readings agree -/

theorem messageOf_eq_messageText (line : Text) : messageOf line = messageText line := by
  simp only [messageOf, messageText, List.singleton_suffix_iff_getLast?_eq_some]

theorem isSuppressed_eq (reader : Reader) (location : Location) :
    reader.isSuppressed = !isReported (reader.message, location) := by
  rw [Reader.isSuppressed, isReported, Bool.not_not, Bool.eq_iff_iff, decide_eq_true_iff]
  exact Text.occurs_iff_isInfix incompleteMark reader.message

/-- A line that says something is told as its location is concluded upon, under the message in
force. -/
theorem Reader.told_eq_conclude (reader : Reader) {line : Text}
    (speaks : Text.isBlankText line = false) :
    reader.told line =
      conclude (((Location.ofLine? line).map fun location =>
        (reader.message, location)).toList.filter isReported) := by
  rw [Reader.told, Reader.feed, if_neg (by simp [speaks])]
  cases Location.ofLine? line with
  | none => rfl
  | some location =>
      change (if reader.isSuppressed then .ok none
        else (location.diagnostic reader.message).map some : Except Failure _).map Option.toList =
          conclude ([(reader.message, location)].filter isReported)
      rw [isSuppressed_eq reader location]
      by_cases counts : isReported (reader.message, location) = true
      · rw [List.filter_cons_of_pos counts, List.filter_nil, conclude_singleton, counts]
        cases location.diagnostic reader.message <;> rfl
      · rw [List.filter_cons_of_neg counts, List.filter_nil, Bool.not_eq_true _ |>.mp counts]
        rfl

theorem Reader.after_concat (reader : Reader) (lines : List Text) (line : Text) :
    reader.after (lines ++ [line]) = ((reader.after lines).feed line).reader := by
  rw [Reader.after, List.foldl_concat]
  rfl

/-- The message in force is the one found by looking back. -/
theorem Reader.message_after (lines : List Text)
    (speak : ∀ line ∈ lines, Text.isBlankText line = false) :
    (Reader.initial.after lines).message = governing lines := by
  induction lines using List.reverseRecOn with
  | nil => rfl
  | append_singleton lines line inductionHypothesis =>
      have speaks : Text.isBlankText line = false := speak line (by simp)
      have earlier := inductionHypothesis fun other member => speak other (by simp [member])
      rw [Reader.after_concat, Reader.feed, if_neg (by simp [speaks])]
      cases form : Location.ofLine? line with
      | none =>
          rw [governing_concat_of_message lines (by simp [isMessage, form])]
          exact messageOf_eq_messageText line
      | some location =>
          rw [governing_concat_of_location lines (by simp [isMessage, form])]
          exact earlier

/-- Over lines that say something, the forward reader finds what looking back finds. -/
theorem Reader.read_eq_conclude (lines : List Text)
    (speak : ∀ line ∈ lines, Text.isBlankText line = false) :
    Reader.initial.read lines = conclude ((located lines).filter isReported) := by
  induction lines using List.reverseRecOn with
  | nil => rfl
  | append_singleton lines line inductionHypothesis =>
      have speaks : Text.isBlankText line = false := speak line (by simp)
      have speakEarlier : ∀ other ∈ lines, Text.isBlankText other = false :=
        fun other member => speak other (by simp [member])
      have last : (Reader.initial.after lines).read [line] =
          conclude (((Location.ofLine? line).map fun location =>
            (governing lines, location)).toList.filter isReported) := by
        rw [Reader.read_singleton, Reader.told_eq_conclude _ speaks,
          Reader.message_after lines speakEarlier]
      rw [Reader.read_append, inductionHypothesis speakEarlier, last, located_concat,
        List.filter_append, conclude_append]

/-- A report is read as the locations that it reports are concluded upon. -/
theorem parse_eq_conclude (report : Text) : parse report = conclude (reported report) := by
  have speak : ∀ line ∈ spoken (Text.reportLines report), Text.isBlankText line = false := by
    intro line member
    simpa [spoken] using (List.mem_filter.mp member).2
  rw [parse, ← Reader.read_spoken, Reader.read_eq_conclude _ speak, Text.reportLines_eq_unended]
  rfl

/-- Reading a report forward gives one finding for each location that is reported when looking
back, in the order of the text; if some numeral among them has too many digits, the first such
numeral is complained about instead. -/
theorem parse_eq_lookBack (report : Text) :
    parse report =
      match ((reported report).flatMap numerals).find? isOverlong with
      | some digits => .error (.tooManyDigits digits.length)
      | none => .ok ((reported report).map finding) := by
  rw [parse_eq_conclude, conclude]

end CueWatch.Report
