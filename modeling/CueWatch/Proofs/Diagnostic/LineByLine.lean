import CueWatch.Proofs.Diagnostic.LookBack

/-!
Contract: a reader that is fed any lines, one after another.

A report is read only up to the first failure. A reader that is fed by hand goes on after a line
that it fails at, and the lines may hold anything. What it remembers is told here from all lines
that it has been fed, whether or not it has failed at some of them.

Owns:
- `Reader.steps`, the steps of a run, and `orphans`, the number of those that are noted as
  locations before any message;
- what one line does to the reader, and what all lines have done to it;
- `Orderly`, what holds of a reader after any lines and of the line that comes next.

Does not own: how lines are told apart (`LocationLine`), and what whole reports say (`LookBack`).
-/

namespace CueWatch

/-- A finding says what the message in force says. -/
theorem Location.message_of_diagnostic {message : Text} {location : Location}
    {diagnostic : Diagnostic} (told : location.diagnostic message = .ok diagnostic) :
    diagnostic.message = message := by
  unfold Location.diagnostic at told
  split at told
  next => cases told
  next =>
    split at told
    next => cases told
    next =>
      obtain rfl := Except.ok.inj told
      rfl

namespace Report

open LookBack

/-- The steps of a run, one for each line. -/
def Reader.steps (reader : Reader) : List Text → List Step
  | [] => []
  | line :: rest => reader.feed line :: (reader.feed line).reader.steps rest

/-- How many lines of a run are noted as locations before any message. -/
def orphans (lines : List Text) : Nat := (Reader.initial.steps lines).countP Step.isOrphan

/-- Whether a line is a location: it says something, and it is no message. -/
def isLocation (line : Text) : Bool :=
  !Text.isBlankText line && (Location.ofLine? line).isSome

theorem isLocation_iff {line : Text} :
    isLocation line = true ↔
      Text.isBlankText line = false ∧ ∃ location, Location.ofLine? line = some location := by
  rw [isLocation, Bool.and_eq_true, Bool.not_eq_true', Option.isSome_iff_exists]

theorem isLocation_of_message {line : Text} (message : isMessage line = true) :
    isLocation line = false := by
  rw [isMessage, Option.isNone_iff_eq_none] at message
  simp [isLocation, message]

/-! ### One line -/

/-- Every line is blank, a message or a location. -/
theorem kinds_of_line (line : Text) :
    Text.isBlankText line = true ∨
      (Text.isBlankText line = false ∧ isMessage line = true) ∨ isLocation line = true := by
  cases blank : Text.isBlankText line with
  | true => exact .inl rfl
  | false =>
      cases read : Location.ofLine? line with
      | none => exact .inr (.inl ⟨rfl, by simp [isMessage, read]⟩)
      | some location => exact .inr (.inr (isLocation_iff.mpr ⟨blank, location, read⟩))

namespace Reader

variable (reader : Reader) (line : Text)

/-- Only a blank line leaves a reader that awaits a message as it is. -/
theorem expectation_feed :
    (reader.feed line).reader.expectation = .message ↔
      reader.expectation = .message ∧ Text.isBlankText line = true := by
  rcases kinds_of_line line with blank | ⟨speaks, message⟩ | isLocation
  · simp [reader.feed_blank blank, blank]
  · simp [reader.feed_message speaks message, speaks]
  · obtain ⟨speaks, location, read⟩ := isLocation_iff.mp isLocation
    simp [reader.feed_location speaks read, speaks]

theorem message_feed (kept : Text.isBlankText line = true ∨ isLocation line = true) :
    (reader.feed line).reader.message = reader.message := by
  rcases kept with blank | isLocation
  · rw [reader.feed_blank blank]
  · obtain ⟨speaks, location, read⟩ := isLocation_iff.mp isLocation
    rw [reader.feed_location speaks read]

theorem isOrphan_feed :
    (reader.feed line).isOrphan = true ↔
      reader.expectation = .message ∧ isLocation line = true := by
  rcases kinds_of_line line with blank | ⟨speaks, message⟩ | isLocation
  · simp [reader.feed_blank blank, isLocation, blank]
  · simp [reader.feed_message speaks message, isLocation_of_message message]
  · obtain ⟨speaks, location, read⟩ := isLocation_iff.mp isLocation
    simp [reader.feed_location speaks read, isLocation]

/-- Only locations report something, and what they report says the message in force. -/
theorem finding_feed {reader : Reader} {line : Text} {diagnostic : Diagnostic}
    (found : (reader.feed line).finding = .ok (some diagnostic)) :
    isLocation line = true ∧ diagnostic.message = reader.message ∧
      ¬ incompleteMark <:+: diagnostic.message := by
  rcases kinds_of_line line with blank | ⟨speaks, message⟩ | isLocation
  · rw [reader.feed_blank blank] at found
    cases found
  · rw [reader.feed_message speaks message] at found
    cases found
  · obtain ⟨speaks, location, read⟩ := isLocation_iff.mp isLocation
    rw [reader.feed_location speaks read] at found
    dsimp only at found
    split at found
    next => cases found
    next loud =>
      cases told : location.diagnostic reader.message with
      | error failure =>
          rw [told] at found
          cases found
      | ok own =>
          rw [told] at found
          obtain rfl := Option.some.inj (Except.ok.inj found)
          have inForce := Location.message_of_diagnostic told
          refine ⟨isLocation, inForce, ?_⟩
          rw [inForce, ← Text.occurs_iff_isInfix]
          exact loud

end Reader

/-! ### All lines so far -/

theorem Reader.after_append (reader : Reader) (lines more : List Text) :
    reader.after (lines ++ more) = (reader.after lines).after more := List.foldl_append

/-- Only lines that say something have changed the reader. -/
theorem Reader.after_spoken (reader : Reader) (lines : List Text) :
    reader.after (spoken lines) = reader.after lines := by
  induction lines generalizing reader with
  | nil => rfl
  | cons line rest inductionHypothesis =>
      change _ = (reader.feed line).reader.after rest
      cases blank : Text.isBlankText line with
      | true =>
          have dropped : spoken (line :: rest) = spoken rest := by simp [spoken, blank]
          rw [dropped, inductionHypothesis, reader.feed_blank blank]
      | false =>
          have kept : spoken (line :: rest) = line :: spoken rest := by simp [spoken, blank]
          rw [kept, ← inductionHypothesis]
          rfl

theorem Reader.steps_concat (reader : Reader) (lines : List Text) (line : Text) :
    reader.steps (lines ++ [line]) = reader.steps lines ++ [(reader.after lines).feed line] := by
  induction lines generalizing reader with
  | nil => rfl
  | cons first rest inductionHypothesis =>
      rw [List.cons_append, Reader.steps, Reader.steps, inductionHypothesis, List.cons_append]
      rfl

/-- A reader awaits a message exactly as long as nothing has been said. -/
theorem expectation_after (reader : Reader) (lines : List Text) :
    (reader.after lines).expectation = .message ↔
      reader.expectation = .message ∧ ∀ line ∈ lines, Text.isBlankText line = true := by
  induction lines generalizing reader with
  | nil => simp [Reader.after]
  | cons line rest inductionHypothesis =>
      change ((reader.feed line).reader.after rest).expectation = _ ↔ _
      rw [inductionHypothesis, reader.expectation_feed, List.forall_mem_cons, and_assoc]

theorem awaits_message_iff (lines : List Text) :
    (Reader.initial.after lines).expectation = .message ↔
      ∀ line ∈ lines, Text.isBlankText line = true := by
  rw [expectation_after]
  exact and_iff_right rfl

theorem spoken_eq_nil_iff (lines : List Text) :
    spoken lines = [] ↔ ∀ line ∈ lines, Text.isBlankText line = true := by
  simp [spoken]

theorem orphans_concat (lines : List Text) (line : Text) :
    orphans (lines ++ [line]) =
      orphans lines + ((Reader.initial.after lines).feed line).isOrphan.toNat := by
  rw [orphans, Reader.steps_concat, List.countP_append, List.countP_singleton]
  cases ((Reader.initial.after lines).feed line).isOrphan <;> rfl

/-- The one line that can be noted as an orphan is the first one that says something. -/
theorem orphans_eq (lines : List Text) :
    orphans lines = ((spoken lines).head?.any isLocation).toNat := by
  induction lines using List.reverseRecOn with
  | nil => rfl
  | append_singleton lines line inductionHypothesis =>
      have isOrphan := (Reader.initial.after lines).isOrphan_feed line
      rw [awaits_message_iff, ← spoken_eq_nil_iff] at isOrphan
      have spokenToo : spoken (lines ++ [line]) = spoken lines ++ spoken [line] :=
        List.filter_append ..
      rw [orphans_concat, inductionHypothesis, spokenToo]
      cases earlier : spoken lines with
      | nil =>
          have alone : (spoken [line]).head?.any isLocation = isLocation line := by
            cases blank : Text.isBlankText line <;> simp [spoken, blank, isLocation]
          have same : ((Reader.initial.after lines).feed line).isOrphan = isLocation line := by
            rw [Bool.eq_iff_iff, isOrphan, earlier]
            exact and_iff_right rfl
          rw [List.nil_append, alone, same]
          exact Nat.zero_add _
      | cons first others =>
          have silent : ((Reader.initial.after lines).feed line).isOrphan = false := by
            rw [← Bool.not_eq_true, isOrphan, earlier]
            simp
          rw [silent]
          rfl

/-! ### A reader after any lines -/

/-- What holds of a reader that has been fed some lines since the beginning, and of the line that it
is fed next. -/
structure Orderly (lines : List Text) : Prop where
  /-- A message is awaited exactly as long as all lines are blank. -/
  awaits_iff : (Reader.initial.after lines).expectation = .message ↔
    ∀ line ∈ lines, Text.isBlankText line = true
  /-- It is never awaited again. -/
  never_awaits_again : (Reader.initial.after lines).expectation = .location →
    ∀ more, (Reader.initial.after (lines ++ more)).expectation = .location
  orphans_le_one : orphans lines ≤ 1
  /-- There is an orphan exactly if the first line that says something is a location. -/
  orphans_eq_one_iff : orphans lines = 1 ↔
    ∃ first ∈ (spoken lines).head?, isLocation first = true
  /-- The message in force is that of the last message line. -/
  message_eq : (Reader.initial.after lines).message = governing (spoken lines)
  message_kept : ∀ line, Text.isBlankText line = true ∨ isLocation line = true →
    ((Reader.initial.after lines).feed line).reader.message = (Reader.initial.after lines).message
  orphan_iff : ∀ line, ((Reader.initial.after lines).feed line).isOrphan = true ↔
    (∀ earlier ∈ lines, Text.isBlankText earlier = true) ∧ isLocation line = true
  /-- A finding is that of a location; it says the message in force and takes up no space. -/
  finding : ∀ line diagnostic,
    ((Reader.initial.after lines).feed line).finding = .ok (some diagnostic) →
      isLocation line = true ∧
        diagnostic.message = ((Reader.initial.after lines).feed line).reader.message ∧
        ¬ incompleteMark <:+: diagnostic.message ∧ diagnostic.startPoint = diagnostic.endPoint

/-- A reader remains orderly whatever it is fed, also after lines that it fails at. -/
theorem reader_remains_orderly (lines : List Text) : Orderly lines := by
  constructor
  case awaits_iff => exact awaits_message_iff lines
  case never_awaits_again =>
    intro settled more
    have notAgain : (Reader.initial.after (lines ++ more)).expectation ≠ .message := by
      rw [Reader.after_append, Ne, expectation_after, settled]
      simp
    revert notAgain
    cases (Reader.initial.after (lines ++ more)).expectation <;> simp
  case orphans_le_one =>
    rw [orphans_eq]
    exact Bool.toNat_le _
  case orphans_eq_one_iff =>
    rw [orphans_eq, Bool.toNat_eq_one, Option.any_eq_true]
    rfl
  case message_eq =>
    have speak : ∀ line ∈ spoken lines, Text.isBlankText line = false := by
      intro line member
      simpa [spoken] using (List.mem_filter.mp member).2
    rw [← Reader.after_spoken]
    exact Reader.message_after (spoken lines) speak
  case message_kept => exact fun line => Reader.message_feed _ line
  case orphan_iff =>
    intro line
    rw [Reader.isOrphan_feed, awaits_message_iff]
  case finding =>
    intro line diagnostic found
    obtain ⟨isLocation, inForce, loud⟩ := Reader.finding_feed found
    refine ⟨isLocation, ?_, loud, rfl⟩
    rw [inForce, Reader.message_feed _ line (.inr isLocation)]

/-- A location with a numeral that cannot be read is noted as an orphan, and only once. -/
example :
    let line : Text := "  a.cue:" ++ List.replicate 4301 '7' ++ ":1"
    (Reader.initial.feed line).finding = .error (.tooManyDigits 4301) ∧
      orphans [" ", line, "  a.cue:1:1"] = 1 := by
  decide +kernel

end Report

end CueWatch
