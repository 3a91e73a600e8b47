import CueWatch.Proofs.Settings.Json.Grammar

/-!
Contract: the reader accepts every text of the grammar, as the value that it spells.

Owns:
- `Begins`, the texts with which a value can begin, and `Ends`, those that do not go on with a
  numeral;
- `read_eq_ok_iff`, that a text is read as a value exactly if it spells that value.

A spelled value is read before everything that does not go on with a numeral, by every recursion
that is deep enough for its length.

Does not own: the grammar (`Proofs.Settings.Json.Grammar`).
-/

namespace CueWatch.Settings.Json

/-! ### Strings -/

theorem readUnits_of_spells {t : Text} {units : List Nat} (spelled : SpellsUnits t units)
    (rest : Text) : readUnits (t ++ Text.doubleQuote :: rest) = some (units, rest) := by
  induction spelled with
  | nil =>
      rw [List.nil_append, readUnits.eq_def]
      exact if_pos rfl
  | plain notQuote notBackslash visible _ inductionHypothesis =>
      rw [List.cons_append, readUnits.eq_def]
      dsimp only
      rw [if_neg notQuote, if_neg notBackslash, if_neg visible, inductionHypothesis]
      rfl
  | escape notNumber means _ inductionHypothesis =>
      rw [List.cons_append, List.cons_append, readUnits.eq_def]
      dsimp only
      rw [if_neg (by decide), if_pos rfl, if_neg notNumber, means, inductionHypothesis]
      rfl
  | number means _ inductionHypothesis =>
      simp only [List.cons_append]
      rw [readUnits.eq_def]
      dsimp only
      rw [if_neg (by decide), if_pos rfl, if_pos rfl, means, inductionHypothesis]
      rfl

/-- A spelled string begins with a quote, behind which it is read. -/
theorem readString_of_spells {t : Text} {string : Key} (spelled : SpellsString t string)
    (rest : Text) :
    ∃ inside, t ++ rest = Text.doubleQuote :: inside ∧ readString inside = .ok (string, rest) := by
  obtain @⟨inside, units, unitsSpelled⟩ := spelled
  refine ⟨inside ++ Text.doubleQuote :: rest, by simp, ?_⟩
  rw [readString, readUnits_of_spells unitsSpelled]

/-! ### Numerals -/

/-- A text that does not go on with digits. -/
def EndsDigits (rest : Text) : Prop := ∀ c ∈ rest.head?, isDigit c = false

/-- A text that does not go on with a number: it begins with no digit, no point and no mark of an
exponent. -/
def Ends (rest : Text) : Prop :=
  ∀ c ∈ rest.head?, isDigit c = false ∧ c ≠ '.' ∧ c ≠ 'e' ∧ c ≠ 'E'

theorem Ends.digits {rest : Text} (ends : Ends rest) : EndsDigits rest :=
  fun c starts => (ends c starts).1

theorem ne_of_isDigit {d c : Char} (digit : isDigit d = true) (notDigit : isDigit c = false) :
    d ≠ c := by
  rintro rfl
  rw [digit] at notDigit
  cases notDigit

theorem IsDigits.isEmpty {t : Text} (isDigits : IsDigits t) : t.isEmpty = false :=
  List.isEmpty_eq_false_iff.mpr isDigits.nonempty

theorem IsDigits.exists_cons {t : Text} (isDigits : IsDigits t) :
    ∃ d digits, t = d :: digits ∧ isDigit d = true := by
  obtain ⟨d, digits, rfl⟩ := List.exists_cons_of_ne_nil isDigits.nonempty
  exact ⟨d, digits, rfl, isDigits.each d List.mem_cons_self⟩

theorem IsWhole.isDigits {t : Text} (isWhole : IsWhole t) : IsDigits t := by
  rcases isWhole with rfl | ⟨isDigits, -⟩
  · exact ⟨List.cons_ne_nil _ _, List.forall_mem_singleton.mpr rfl⟩
  · exact isDigits

theorem takeWhile_digits {digits rest : Text} (isNumeral : ∀ c ∈ digits, isDigit c = true)
    (ends : EndsDigits rest) :
    (digits ++ rest).takeWhile isDigit = digits ∧ (digits ++ rest).dropWhile isDigit = rest := by
  rw [List.takeWhile_append_of_pos isNumeral, List.dropWhile_append_of_pos isNumeral]
  cases rest with
  | nil => simp
  | cons c rest =>
      have noDigit := ends c rfl
      simp [noDigit]

theorem readWhole_of_isWhole {whole rest : Text} (isWhole : IsWhole whole)
    (ends : EndsDigits rest) : readWhole (whole ++ rest) = some (whole, rest) := by
  rcases isWhole with rfl | ⟨isDigits, notZero⟩
  · rfl
  · obtain ⟨taken, left⟩ := takeWhile_digits isDigits.each ends
    obtain ⟨d, digits, rfl, -⟩ := isDigits.exists_cons
    rw [readWhole]
    · rw [taken, left, isDigits.isEmpty]
      rfl
    · intro tail same
      exact notZero (congrArg List.head? same)

theorem readFraction_of_spells {t rest : Text} {fraction : Option Text}
    (spelled : SpellsFraction t fraction) (ends : EndsDigits rest)
    (noPoint : rest.head? ≠ some '.') : readFraction (t ++ rest) = (fraction, rest) := by
  cases spelled with
  | none =>
      rw [List.nil_append, readFraction]
      rintro tail rfl
      exact noPoint rfl
  | digits isDigits =>
      obtain ⟨taken, left⟩ := takeWhile_digits isDigits.each ends
      simp only [List.cons_append, readFraction, taken, left, isDigits.isEmpty]
      rfl

theorem readSign_of_spells {t digits : Text} {negative : Bool} (spelled : SpellsSign t negative)
    (isDigits : IsDigits digits) (rest : Text) :
    readSign (t ++ (digits ++ rest)) = (negative, digits ++ rest) := by
  cases spelled with
  | plus => rfl
  | minus => rfl
  | none =>
      obtain ⟨d, others, rfl, digit⟩ := isDigits.exists_cons
      rw [List.nil_append, List.cons_append, readSign.eq_def]
      split
      next same => exact absurd (List.cons.inj same).1 (ne_of_isDigit digit (by decide))
      next same => exact absurd (List.cons.inj same).1 (ne_of_isDigit digit (by decide))
      next => rfl

theorem readExponent_of_spells {t rest : Text} {exponent : Option (Bool × Text)}
    (spelled : SpellsExponent t exponent) (ends : Ends rest) :
    readExponent (t ++ rest) = (exponent, rest) := by
  cases spelled with
  | none =>
      cases rest with
      | nil => rfl
      | cons c rest =>
          obtain ⟨-, -, notSmall, notLarge⟩ := ends c rfl
          simp [readExponent, notSmall, notLarge]
  | @digits mark sign digits negative isMark signed isDigits =>
      obtain ⟨taken, left⟩ := takeWhile_digits isDigits.each ends.digits
      have marked : (mark = 'e' || mark = 'E') = true := by simpa using isMark
      rw [List.cons_append, List.append_assoc, readExponent]
      simp only [readSign_of_spells signed isDigits, taken, left, isDigits.isEmpty, marked,
        Bool.not_false, Bool.and_self, if_true]

/-- An exponent goes on neither with digits nor with a point. -/
theorem endsDigits_exponent {t rest : Text} {exponent : Option (Bool × Text)}
    (spelled : SpellsExponent t exponent) (ends : Ends rest) :
    EndsDigits (t ++ rest) ∧ (t ++ rest).head? ≠ some '.' := by
  cases spelled with
  | none => exact ⟨ends.digits, fun point => (ends '.' point).2.1 rfl⟩
  | digits isMark =>
      rcases isMark with rfl | rfl
      all_goals
        refine ⟨?_, by rintro ⟨⟩⟩
        rintro c ⟨⟩
        decide

theorem endsDigits_fraction {t rest : Text} {fraction : Option Text}
    (spelled : SpellsFraction t fraction) (ends : EndsDigits rest) : EndsDigits (t ++ rest) := by
  cases spelled with
  | none => exact ends
  | digits =>
      rintro c ⟨⟩
      decide

theorem readNumeral_of_spells {t rest : Text} {numeral : Numeral}
    (spelled : SpellsNumeral t numeral) (ends : Ends rest) :
    readNumeral (t ++ rest) = some (numeral, rest) := by
  obtain @⟨whole, fractionText, exponentText, fraction, exponent, negative, isWhole, fractional,
    exponential⟩ := spelled
  obtain ⟨endsAfter, noPoint⟩ := endsDigits_exponent exponential ends
  have wholeRead := readWhole_of_isWhole isWhole (endsDigits_fraction fractional endsAfter)
  have fractionRead := readFraction_of_spells fractional endsAfter noPoint
  have exponentRead := readExponent_of_spells exponential ends
  simp only [List.append_assoc]
  cases negative with
  | true =>
      simp only [minus, if_true, List.cons_append, List.nil_append, readNumeral, wholeRead,
        fractionRead, exponentRead]
  | false =>
      obtain ⟨d, digits, same, digit⟩ := isWhole.isDigits.exists_cons
      have noSign : d ≠ '-' := ne_of_isDigit digit (by decide)
      simp only [minus, Bool.false_eq_true, if_false, List.nil_append]
      rw [readNumeral.eq_def]
      split
      next unsigned signed =>
        split at signed
        next starts =>
          rw [same, List.cons_append] at starts
          exact absurd (List.cons.inj starts).1 noSign
        next =>
          obtain ⟨rfl, rfl⟩ := Prod.mk.inj signed
          simp only [wholeRead, fractionRead, exponentRead]

/-- What is seen first of a numeral: a digit, or a sign before a digit. -/
theorem exists_of_spellsNumeral {t : Text} {numeral : Numeral} (spelled : SpellsNumeral t numeral) :
    ∃ d, isDigit d = true ∧ ([d] <+: t ∨ ['-', d] <+: t) := by
  obtain ⟨negative, isWhole, -, -⟩ := spelled
  obtain ⟨d, digits, rfl, digit⟩ := isWhole.isDigits.exists_cons
  refine ⟨d, digit, ?_⟩
  cases negative with
  | true => exact .inr (by simp [minus])
  | false => exact .inl (by simp [minus])

/-! ### Words and numbers -/

theorem find?_words_of_word {word : Text × Value} (isWord : word ∈ words) (rest : Text) :
    words.find? (fun candidate => candidate.1.isPrefixOf (word.1 ++ rest)) = some word := by
  simp only [words, List.mem_cons, List.not_mem_nil, or_false] at isWord
  rcases isWord with rfl | rfl | rfl | rfl | rfl | rfl <;> rfl

/-- No word begins like a number. -/
theorem find?_words_of_number {s : Text} {d : Char} (digit : isDigit d = true)
    (starts : [d] <+: s ∨ ['-', d] <+: s) :
    words.find? (fun word => word.1.isPrefixOf s) = none := by
  have others : ∀ c, isDigit c = false → c ≠ d :=
    fun c notDigit => (ne_of_isDigit digit notDigit).symm
  have n := others 'n' (by decide)
  have t := others 't' (by decide)
  have f := others 'f' (by decide)
  have upperN := others 'N' (by decide)
  have upperI := others 'I' (by decide)
  have minus := others '-' (by decide)
  rcases starts with ⟨rest, rfl⟩ | ⟨rest, rfl⟩
  · simp [words, List.isPrefixOf, n, t, f, upperN, upperI, minus]
  · simp [words, List.isPrefixOf, upperI]

theorem readScalar_of_number {t rest : Text} {numeral : Numeral} {value : Value}
    (spelled : SpellsNumeral t numeral) (valued : numeral.value = .ok value) (ends : Ends rest) :
    readScalar (t ++ rest) = .ok (value, rest) := by
  obtain ⟨d, digit, starts⟩ := exists_of_spellsNumeral spelled
  have further := starts.imp (·.trans (List.prefix_append t rest))
    (·.trans (List.prefix_append t rest))
  rw [readScalar, find?_words_of_number digit further]
  dsimp only
  rw [readNumber, readNumeral_of_spells spelled ends]
  simp only [valued]
  rfl

/-! ### Gaps -/

/-- A text that begins a value: neither a gap nor the end of an array or an object. -/
def Begins (s : Text) : Prop :=
  ∃ c rest, s = c :: rest ∧ isGap c = false ∧ c ≠ ']' ∧ c ≠ closeBrace

theorem Begins.append {s : Text} (begins : Begins s) (rest : Text) : Begins (s ++ rest) := by
  obtain ⟨c, more, rfl, properties⟩ := begins
  exact ⟨c, more ++ rest, rfl, properties⟩

theorem begins_of_isDigit {d : Char} (digit : isDigit d = true) (rest : Text) :
    Begins (d :: rest) := by
  have others : ∀ c, isDigit c = false → d ≠ c := fun c => ne_of_isDigit digit
  refine ⟨d, rest, rfl, ?_, others ']' (by decide), others closeBrace (by decide)⟩
  simp [isGap, others ' ' (by decide), others '\t' (by decide), others '\n' (by decide),
    others '\r' (by decide)]

theorem begins_of_spellsString {t : Text} {string : Key} (spelled : SpellsString t string) :
    Begins t := by
  obtain ⟨-⟩ := spelled
  exact ⟨Text.doubleQuote, _, rfl, by decide⟩

theorem begins_of_spellsNumeral {t : Text} {numeral : Numeral} (spelled : SpellsNumeral t numeral) :
    Begins t := by
  obtain ⟨d, digit, ⟨rest, rfl⟩ | ⟨rest, rfl⟩⟩ := exists_of_spellsNumeral spelled
  · exact begins_of_isDigit digit rest
  · exact ⟨'-', _, rfl, by decide⟩

theorem begins_of_spells {nesting : Nat} {t : Text} {value : Value}
    (spelled : Spells nesting t value) : Begins t := by
  cases spelled with
  | word isWord =>
      simp only [words, List.mem_cons, List.not_mem_nil, or_false] at isWord
      rcases isWord with rfl | rfl | rfl | rfl | rfl | rfl <;> exact ⟨_, _, rfl, by decide⟩
  | number spelled => exact begins_of_spellsNumeral spelled
  | string spelled => exact begins_of_spellsString spelled
  | noItems | array => exact ⟨'[', _, rfl, by decide⟩
  | object spelled => cases spelled <;> exact ⟨openBrace, _, rfl, by decide⟩

theorem begins_of_spellsItems {nesting : Nat} {t : Text} {items : List Value}
    (spelled : SpellsItems nesting t items) : Begins t := by
  cases spelled with
  | last first | more first => exact (begins_of_spells first).append _

theorem begins_of_spellsFields {nesting : Nat} {t : Text} {fields : List (Key × Value)}
    (spelled : SpellsFields nesting t fields) : Begins t := by
  cases spelled with
  | last first | more first =>
      obtain ⟨named, -, -, -⟩ := first
      exact ((begins_of_spellsString named).append _).append _

theorem skipGap_cons {gap : Text} (blank : IsBlank gap) {c : Char} (solid : isGap c = false)
    (rest : Text) : skipGap (gap ++ c :: rest) = c :: rest := by
  rw [skipGap, List.dropWhile_append_of_pos blank, List.dropWhile_cons_of_neg (by simp [solid])]

theorem skipGap_begins {gap s : Text} (blank : IsBlank gap) (begins : Begins s) :
    skipGap (gap ++ s) = s := by
  obtain ⟨c, rest, rfl, solid, -⟩ := begins
  exact skipGap_cons blank solid rest

theorem ends_blank {gap rest : Text} (blank : IsBlank gap) (ends : Ends rest) :
    Ends (gap ++ rest) := by
  cases gap with
  | nil => exact ends
  | cons c gap =>
      rintro d ⟨⟩
      have isBlank := blank c List.mem_cons_self
      simp only [isGap, Bool.or_eq_true, decide_eq_true_eq] at isBlank
      rcases isBlank with ((rfl | rfl) | rfl) | rfl <;> decide

theorem ends_comma (rest : Text) : Ends (',' :: rest) := by
  rintro c ⟨⟩
  decide

theorem ends_bracket (rest : Text) : Ends (']' :: rest) := by
  rintro c ⟨⟩
  decide

theorem ends_brace (rest : Text) : Ends (closeBrace :: rest) := by
  rintro c ⟨⟩
  decide

/-! ### Arrays and objects -/

/-- A spelled value is read by a recursion of a depth that is enough for its length. -/
def Accepts (depth : Nat) : Prop :=
  ∀ {nesting t value rest}, Spells nesting t value → 2 * t.length ≤ depth → Ends rest →
    readValue depth nesting (t ++ rest) = .ok (value, rest)

/-- Spelled items are read up to their closing bracket. -/
def AcceptsItems (depth : Nat) : Prop :=
  ∀ {nesting t items rest}, SpellsItems nesting t items → 2 * t.length < depth →
    readItems depth nesting (t ++ ']' :: rest) = .ok (items, rest)

/-- Spelled fields are read up to their closing brace. -/
def AcceptsFields (depth : Nat) : Prop :=
  ∀ {nesting t fields rest}, SpellsFields nesting t fields → 2 * t.length < depth →
    readFields depth nesting (t ++ closeBrace :: rest) = .ok (fields, rest)

/-- A value that is no string, no array and no object. -/
theorem readValue_scalar {depth nesting : Nat} {s : Text}
    (apart : ∃ c rest, s = c :: rest ∧ c ≠ Text.doubleQuote ∧ c ≠ '[' ∧ c ≠ openBrace) :
    readValue (depth + 1) nesting s = readScalar s := by
  obtain ⟨c, rest, rfl, notQuote, notBracket, notBrace⟩ := apart
  rw [readValue.eq_def]
  dsimp only
  rw [if_neg notQuote, if_neg notBracket, if_neg notBrace]

theorem accepts_succ {depth : Nat} (acceptsItems : AcceptsItems depth)
    (acceptsFields : AcceptsFields depth) : Accepts (depth + 1) := by
  intro nesting t value rest spelled deep ends
  cases spelled with
  | @word _ word isWord =>
      rw [readValue_scalar, readScalar, find?_words_of_word isWord]
      · dsimp only
        rw [List.drop_left]
      · simp only [words, List.mem_cons, List.not_mem_nil, or_false] at isWord
        rcases isWord with rfl | rfl | rfl | rfl | rfl | rfl <;> exact ⟨_, _, rfl, by decide⟩
  | number spelled valued =>
      rw [readValue_scalar, readScalar_of_number spelled valued ends]
      obtain ⟨d, digit, ⟨later, rfl⟩ | ⟨later, rfl⟩⟩ := exists_of_spellsNumeral spelled
      · exact ⟨d, _, rfl, ne_of_isDigit digit (by decide), ne_of_isDigit digit (by decide),
          ne_of_isDigit digit (by decide)⟩
      · exact ⟨'-', _, rfl, by decide⟩
  | string spelled =>
      obtain ⟨inside, quoted, stringRead⟩ := readString_of_spells spelled rest
      rw [quoted, readValue.eq_def]
      dsimp only
      rw [if_pos rfl, stringRead]
  | noItems blank =>
      rw [List.cons_append, List.append_assoc, List.singleton_append, readValue.eq_def]
      dsimp only
      rw [if_neg (by decide), if_pos rfl, skipGap_cons blank (by decide)]
      rfl
  | @array inner gap t items blank spelled =>
      simp only [List.length_cons, List.length_append, List.length_nil] at deep
      have itemsRead := @acceptsItems _ _ _ rest spelled (by omega)
      have begins := (begins_of_spellsItems spelled).append (']' :: rest)
      rw [List.cons_append, List.append_assoc, List.append_assoc, List.singleton_append,
        readValue.eq_def]
      dsimp only
      rw [if_neg (by decide), if_pos rfl, skipGap_begins blank begins]
      split
      next closed =>
        obtain ⟨c, more, same, -, notClosed, -⟩ := begins
        rw [same] at closed
        exact absurd (List.cons.inj closed).1 notClosed
      next => rw [itemsRead]
  | object spelled =>
      cases spelled with
      | noFields blank =>
          rw [List.cons_append, List.append_assoc, List.singleton_append, readValue.eq_def]
          dsimp only
          rw [if_neg (by decide), if_neg (by decide), if_pos rfl, skipGap_cons blank (by decide)]
          exact if_pos rfl
      | @fields inner gap t fields blank spelled =>
          simp only [List.length_cons, List.length_append, List.length_nil] at deep
          have fieldsRead := @acceptsFields _ _ _ rest spelled (by omega)
          have begins := (begins_of_spellsFields spelled).append (closeBrace :: rest)
          rw [List.cons_append, List.append_assoc, List.append_assoc, List.singleton_append,
            readValue.eq_def]
          dsimp only
          rw [if_neg (by decide), if_neg (by decide), if_pos rfl, skipGap_begins blank begins]
          obtain ⟨c, more, same, -, -, notClosed⟩ := begins
          rw [same] at fieldsRead ⊢
          dsimp only
          rw [if_neg notClosed, fieldsRead]

theorem acceptsItems_succ {depth : Nat} (accepts : Accepts depth)
    (acceptsItems : AcceptsItems depth) : AcceptsItems (depth + 1) := by
  intro nesting t items rest spelled deep
  cases spelled with
  | last spelled blank =>
      rw [List.length_append] at deep
      have valueRead := accepts spelled (by omega) (ends_blank blank (ends_bracket rest))
      rw [List.append_assoc, readItems, valueRead]
      dsimp only
      rw [skipGap_cons blank (by decide)]
      rfl
  | more spelled blankBefore blankAfter others =>
      simp only [List.length_append, List.length_cons] at deep
      have valueRead := fun later =>
        accepts spelled (by omega) (ends_blank blankBefore (ends_comma later))
      have othersRead := @acceptsItems _ _ _ rest others (by omega)
      have begins := (begins_of_spellsItems others).append (']' :: rest)
      simp only [List.append_assoc, List.cons_append]
      rw [readItems, valueRead]
      dsimp only
      rw [skipGap_cons blankBefore (by decide)]
      simp only [skipGap_begins blankAfter begins, othersRead]

/-- A field is read up to the mark behind its value, which says whether more fields follow. -/
theorem readFields_of_spellsField {depth nesting : Nat} (accepts : Accepts depth)
    {t rest after : Text} {field : Key × Value} {mark : Char}
    (spelled : SpellsField nesting t field) (deep : 2 * t.length ≤ depth) (ends : Ends rest)
    (followed : skipGap rest = mark :: after) :
    readFields (depth + 1) nesting (t ++ rest) =
      if mark = closeBrace then .ok ([field], after)
      else if mark = ',' then
        (readFields depth nesting (skipGap after)).map fun more => (field :: more.1, more.2)
      else .error .malformed := by
  obtain @⟨_, name, before, gap, t, key, value, named, blankBefore, blankGap, spelled⟩ := spelled
  simp only [List.length_append, List.length_cons] at deep
  have valueRead := accepts spelled (by omega) ends
  have begins := (begins_of_spells spelled).append rest
  obtain ⟨inside, quoted, keyRead⟩ :=
    readString_of_spells named (before ++ ':' :: (gap ++ (t ++ rest)))
  simp only [List.append_assoc, List.cons_append]
  rw [quoted, readFields.eq_def]
  dsimp only
  rw [if_pos rfl, keyRead]
  dsimp only
  rw [skipGap_cons blankBefore (by decide)]
  simp only [skipGap_begins blankGap begins, valueRead, followed]
  cases readFields depth nesting (skipGap after) <;> rfl

theorem acceptsFields_succ {depth : Nat} (accepts : Accepts depth)
    (acceptsFields : AcceptsFields depth) : AcceptsFields (depth + 1) := by
  intro nesting t fields rest spelled deep
  cases spelled with
  | last spelled blank =>
      rw [List.length_append] at deep
      rw [List.append_assoc, readFields_of_spellsField accepts spelled (by omega)
        (ends_blank blank (ends_brace rest)) (skipGap_cons blank (by decide) rest)]
      exact if_pos rfl
  | more spelled blankBefore blankAfter others =>
      simp only [List.length_append, List.length_cons] at deep
      have othersRead := @acceptsFields _ _ _ rest others (by omega)
      have begins := (begins_of_spellsFields others).append (closeBrace :: rest)
      simp only [List.append_assoc, List.cons_append]
      rw [readFields_of_spellsField accepts spelled (by omega)
        (ends_blank blankBefore (ends_comma _)) (skipGap_cons blankBefore (by decide) _),
        if_neg (by decide), if_pos rfl, skipGap_begins blankAfter begins, othersRead]
      rfl

theorem accepts_all (depth : Nat) : Accepts depth ∧ AcceptsItems depth ∧ AcceptsFields depth := by
  induction depth with
  | zero =>
      refine ⟨?_, ?_, ?_⟩
      · intro nesting t value rest spelled deep
        obtain ⟨c, more, rfl, -⟩ := begins_of_spells spelled
        exact absurd deep (by simp)
      · intro nesting t items rest spelled deep
        exact absurd deep (Nat.not_lt_zero _)
      · intro nesting t fields rest spelled deep
        exact absurd deep (Nat.not_lt_zero _)
  | succ depth inductionHypothesis =>
      obtain ⟨accepts, acceptsItems, acceptsFields⟩ := inductionHypothesis
      exact ⟨accepts_succ acceptsItems acceptsFields, acceptsItems_succ accepts acceptsItems,
        acceptsFields_succ accepts acceptsFields⟩

/-! ### Whole texts -/

/-- A text that spells a value is read as that value. -/
theorem read_of_isValueText {s : Text} {value : Value} (spells : IsValueText s value) :
    read s = .ok value := by
  obtain ⟨before, t, after, rfl, blankBefore, blankAfter, spelled⟩ := spells
  have ends : Ends after := by
    have nothing : Ends [] := by rintro c ⟨⟩
    have atEnd := ends_blank blankAfter nothing
    rwa [List.append_nil] at atEnd
  have valueRead := (accepts_all (sufficientDepth (before ++ (t ++ after)))).1 spelled
    (by simp only [sufficientDepth, List.length_append]; omega) ends
  have nothing : skipGap after = [] := List.dropWhile_eq_nil_iff.mpr blankAfter
  rw [read, readNested, skipGap_begins blankBefore ((begins_of_spells spelled).append after),
    valueRead]
  dsimp only
  rw [nothing]
  rfl

theorem read_eq_ok_iff {s : Text} {value : Value} : read s = .ok value ↔ IsValueText s value :=
  ⟨isValueText_of_read, read_of_isValueText⟩

/-- A text that spells an object is read as that object, of fields given again the last ones. -/
theorem read_of_isObjectText {s : Text} {fields : List (Key × Value)}
    (spells : IsObjectText s fields) : read s = .ok (.object (Keyed.merge [] fields)) := by
  obtain ⟨before, t, after, same, blankBefore, blankAfter, spelled⟩ := spells
  exact read_of_isValueText ⟨before, t, after, same, blankBefore, blankAfter, .object spelled⟩

end CueWatch.Settings.Json
