import CueWatch.Proofs.Settings.Json.RoundTrip

/-!
Contract: what the reader accepts keeps to its limits, what it refuses without being malformed goes
beyond them, and what the writer writes has no line end but newlines.

Owns:
- `bounded_of_read`, that every value that was read is `Bounded`;
- `Exceeds`, what goes beyond the limits: a run of too many digits, or more brackets and braces than
  may be open at once;
- that the text of a value without binary64 numbers has no carriage return, so that it does not
  change when it is read from a file.

Does not own: that what is written is read back (`Proofs.Settings.Json.RoundTrip`).
-/

namespace CueWatch.Settings.Json

/-! ### Words and numbers -/

/-- A number that is read as a whole one has no more digits than are read. -/
theorem bounded_of_numeral {numeral : Numeral} {value : Value}
    (valued : numeral.value = .ok value) (nesting : Nat) : Bounded nesting value := by
  unfold Numeral.value at valued
  split at valued
  next whole =>
    split at valued
    next tooLong => cases valued
    next short =>
      obtain rfl := Except.ok.inj valued
      refine .int (Text.length_decimal_le (by decide) ?_)
      have magnitude : (if numeral.negative = true then
          -(Text.numeralValue numeral.whole : Int) else Text.numeralValue numeral.whole).natAbs =
          Text.numeralValue numeral.whole := by
        split <;> omega
      rw [magnitude]
      exact Nat.lt_of_lt_of_le (Text.numeralValue_lt numeral.whole)
        (Nat.pow_le_pow_right (by decide) (Nat.le_of_not_lt short))
  next =>
    obtain rfl := Except.ok.inj valued
    exact .float _

theorem bounded_of_word {word : Text × Value} (member : word ∈ words) (nesting : Nat) :
    Bounded nesting word.2 := by
  simp only [words, List.mem_cons, List.not_mem_nil, or_false] at member
  rcases member with rfl | rfl | rfl | rfl | rfl | rfl
  · exact .null
  · exact .bool true
  · exact .bool false
  all_goals exact .float _

theorem bounded_ofKey (string : Key) (nesting : Nat) : Bounded nesting (.ofKey string) := by
  cases string with
  | text t => exact .text t
  | torn t => exact .torn t

/-! ### Arrays and objects -/

mutual

/-- A value that is spelled keeps to the limits. -/
theorem bounded_of_spells {nesting : Nat} {t : Text} {value : Value} :
    Spells nesting t value → Bounded nesting value
  | .word isWord => bounded_of_word isWord nesting
  | .number _ valued => bounded_of_numeral valued nesting
  | .string _ => bounded_ofKey _ nesting
  | .noItems _ => .array (by rintro item ⟨⟩)
  | .array _ spelled => .array (bounded_of_spellsItems spelled)
  | .object spelled => by
      -- A key that is spelled again replaces the field that it had before.
      have distinct : (Keyed.keys ([] : List (Key × Value))).Nodup := List.Pairwise.nil
      refine .object (Keyed.nodup_keys_merge distinct _) ?_
      intro field member
      rcases Keyed.mem_merge member with ⟨⟨⟩⟩ | isField
      exact bounded_of_spellsObject spelled field isField

theorem bounded_of_spellsItems {nesting : Nat} {t : Text} {items : List Value} :
    SpellsItems nesting t items → ∀ item ∈ items, Bounded nesting item
  | .last spelled _ => by
      intro item member
      obtain rfl := List.mem_singleton.mp member
      exact bounded_of_spells spelled
  | .more spelled _ _ others => by
      intro item member
      rcases List.mem_cons.mp member with rfl | isLater
      · exact bounded_of_spells spelled
      · exact bounded_of_spellsItems others item isLater

theorem bounded_of_spellsObject {nesting : Nat} {t : Text} {fields : List (Key × Value)} :
    SpellsObject nesting t fields → ∀ field ∈ fields, Bounded nesting field.2
  | .noFields _ => by rintro field ⟨⟩
  | .fields _ spelled => bounded_of_spellsFields spelled

theorem bounded_of_spellsFields {nesting : Nat} {t : Text} {fields : List (Key × Value)} :
    SpellsFields nesting t fields → ∀ field ∈ fields, Bounded nesting field.2
  | .last spelled _ => by
      intro field member
      obtain rfl := List.mem_singleton.mp member
      exact bounded_of_spellsField spelled
  | .more spelled _ _ others => by
      intro field member
      rcases List.mem_cons.mp member with rfl | isLater
      · exact bounded_of_spellsField spelled
      · exact bounded_of_spellsFields others field isLater

theorem bounded_of_spellsField {nesting : Nat} {t : Text} {field : Key × Value} :
    SpellsField nesting t field → Bounded nesting field.2
  | .pair _ _ _ spelled => bounded_of_spells spelled

end

/-- Every value that was read keeps to the limits. -/
theorem bounded_of_read {s : Text} {value : Value} (isRead : read s = .ok value) :
    Bounded nestingLimit value := by
  obtain ⟨_, _, _, _, _, _, spelled⟩ := isValueText_of_read isRead
  exact bounded_of_spells spelled

/-! ### What goes beyond the limits -/

/-- How many arrays and objects a text can open. -/
def openings (s : Text) : Nat := s.countP fun c => c = '[' || c = openBrace

/-- What is wrong with a text that is not malformed and is not read: it holds a run of too many
digits, or it opens more arrays and objects than may be inside each other. -/
inductive Exceeds (nesting : Nat) (s : Text) : Fault → Prop
  | digits {t : Text} (isDigits : IsDigits t) (long : digitLimit < t.length) (inside : t <:+: s) :
      Exceeds nesting s (.tooManyDigits t.length)
  | depth {kind : Text} (many : nesting < openings s) : Exceeds nesting s (.tooDeep kind)

theorem Exceeds.of_suffix {nesting : Nat} {s t : Text} {fault : Fault}
    (exceeds : Exceeds nesting t fault) (suffix : t <:+ s) : Exceeds nesting s fault := by
  cases exceeds with
  | digits isDigits long inside => exact .digits isDigits long (inside.trans suffix.isInfix)
  | depth many => exact .depth (Nat.lt_of_lt_of_le many suffix.sublist.countP_le)

/-- What goes beyond the limits inside an array or object does so with the one around it. -/
theorem Exceeds.opened {inner : Nat} {c : Char} {s t : Text} {fault : Fault}
    (exceeds : Exceeds inner t fault) (isOpening : c = '[' ∨ c = openBrace) (suffix : t <:+ s) :
    Exceeds (inner + 1) (c :: s) fault := by
  cases exceeds with
  | digits isDigits long inside =>
      exact .digits isDigits long (inside.trans (suffix.trans (List.suffix_cons c s)).isInfix)
  | depth many =>
      have counted : openings (c :: s) = openings s + 1 :=
        List.countP_cons_of_pos (by simpa using isOpening)
      have fewer : openings t ≤ openings s := suffix.sublist.countP_le
      exact .depth (by omega)

theorem exceeds_of_readScalar {s : Text} {fault : Fault} (isRefused : readScalar s = .error fault)
    (wellFormed : fault ≠ .malformed) (nesting : Nat) : Exceeds nesting s fault := by
  unfold readScalar at isRefused
  split at isRefused
  next => cases isRefused
  next =>
    unfold readNumber at isRefused
    split at isRefused
    next => exact absurd (Except.error.inj isRefused).symm wellFormed
    next numeral rest numeralRead =>
      obtain ⟨_, rfl, spelled⟩ := takes_of_readNumeral numeralRead
      obtain @⟨whole, fractionText, exponentText, _, _, negative, isWhole, -, -⟩ := spelled
      unfold Numeral.value at isRefused
      split at isRefused
      next =>
        split at isRefused
        next long =>
          obtain rfl := Except.error.inj isRefused
          refine .digits isWhole.isDigits long
            ⟨minus negative, fractionText ++ exponentText ++ rest, ?_⟩
          simp only [List.append_assoc]
        next => cases isRefused
      next => cases isRefused

/-- A value that is refused by a recursion of a depth is malformed or goes beyond the limits. -/
def RefusesExcess (depth : Nat) : Prop :=
  ∀ {nesting s fault}, readValue depth nesting s = .error fault → fault ≠ .malformed →
    Exceeds nesting s fault

/-- Items that are refused are malformed or go beyond the limits. -/
def RefusesExcessItems (depth : Nat) : Prop :=
  ∀ {nesting s fault}, readItems depth nesting s = .error fault → fault ≠ .malformed →
    Exceeds nesting s fault

/-- Fields that are refused are malformed or go beyond the limits. -/
def RefusesExcessFields (depth : Nat) : Prop :=
  ∀ {nesting s fault}, readFields depth nesting s = .error fault → fault ≠ .malformed →
    Exceeds nesting s fault

theorem skipGap_isSuffix (s : Text) : skipGap s <:+ s := List.dropWhile_suffix _

theorem isSuffix_of_takes {α : Type} {spells : Text → α → Prop} {s rest : Text} {given : α}
    (takes : Takes spells s given rest) : rest <:+ s := by
  obtain ⟨t, rfl, -⟩ := takes
  exact List.suffix_append t rest

theorem eq_malformed_of_readString {s : Text} {fault : Fault}
    (isRefused : readString s = .error fault) : fault = .malformed := by
  unfold readString at isRefused
  split at isRefused
  next => cases isRefused
  next => exact (Except.error.inj isRefused).symm

theorem refusesExcess_succ {depth : Nat} (items : RefusesExcessItems depth)
    (fields : RefusesExcessFields depth) : RefusesExcess (depth + 1) := by
  intro nesting s fault isRefused wellFormed
  have malformed : ∀ {α : Type}, (.error .malformed : Except Fault α) = .error fault → False :=
    fun same => wellFormed (Except.error.inj same).symm
  rw [readValue.eq_def] at isRefused
  cases s with
  | nil => exact (malformed isRefused).elim
  | cons c more =>
      dsimp only at isRefused
      split at isRefused
      next =>
        split at isRefused
        next => cases isRefused
        next stringRefused =>
          obtain rfl := Except.error.inj isRefused
          exact absurd (eq_malformed_of_readString stringRefused) wellFormed
      next =>
        split at isRefused
        next atBracket =>
          subst atBracket
          cases nesting with
          | zero =>
              obtain rfl := Except.error.inj isRefused
              exact .depth (List.countP_pos_iff.mpr ⟨_, List.mem_cons_self, by decide⟩)
          | succ inner =>
              dsimp only at isRefused
              split at isRefused
              next => cases isRefused
              next =>
                split at isRefused
                next => cases isRefused
                next itemsRefused =>
                  obtain rfl := Except.error.inj isRefused
                  exact (items itemsRefused wellFormed).opened (.inl rfl) (skipGap_isSuffix more)
        next =>
          split at isRefused
          next atBrace =>
            subst atBrace
            cases nesting with
            | zero =>
                obtain rfl := Except.error.inj isRefused
                exact .depth (List.countP_pos_iff.mpr ⟨_, List.mem_cons_self, by decide⟩)
            | succ inner =>
                dsimp only at isRefused
                split at isRefused
                next => exact (malformed isRefused).elim
                next opened =>
                  split at isRefused
                  next => cases isRefused
                  next =>
                    split at isRefused
                    next => cases isRefused
                    next fieldsRefused =>
                      obtain rfl := Except.error.inj isRefused
                      rw [← opened] at fieldsRefused
                      exact (fields fieldsRefused wellFormed).opened (.inr rfl)
                        (skipGap_isSuffix more)
          next => exact exceeds_of_readScalar isRefused wellFormed _

theorem refusesExcessItems_succ {depth : Nat} (value : RefusesExcess depth)
    (items : RefusesExcessItems depth) : RefusesExcessItems (depth + 1) := by
  intro nesting s fault isRefused wellFormed
  rw [readItems] at isRefused
  split at isRefused
  next firstRefused =>
    obtain rfl := Except.error.inj isRefused
    exact value firstRefused wellFormed
  next _ left firstRead =>
    have suffix : left <:+ s := isSuffix_of_takes ((readsSpelled_all depth).1 firstRead)
    have gap := skipGap_isSuffix left
    split at isRefused
    next => cases isRefused
    next more atComma =>
      rw [atComma] at gap
      have later : more <:+ s := ((List.suffix_cons _ more).trans gap).trans suffix
      split at isRefused
      next => cases isRefused
      next othersRefused =>
        obtain rfl := Except.error.inj isRefused
        exact (items othersRefused wellFormed).of_suffix ((skipGap_isSuffix more).trans later)
    next => exact absurd (Except.error.inj isRefused).symm wellFormed

theorem refusesExcessFields_succ {depth : Nat} (value : RefusesExcess depth)
    (fields : RefusesExcessFields depth) : RefusesExcessFields (depth + 1) := by
  intro nesting s fault isRefused wellFormed
  have malformed : ∀ {α : Type}, (.error .malformed : Except Fault α) = .error fault → False :=
    fun same => wellFormed (Except.error.inj same).symm
  rw [readFields.eq_def] at isRefused
  cases s with
  | nil => exact (malformed isRefused).elim
  | cons c more =>
      dsimp only at isRefused
      split at isRefused
      next atQuote =>
        subst atQuote
        split at isRefused
        next stringRefused =>
          obtain rfl := Except.error.inj isRefused
          exact absurd (eq_malformed_of_readString stringRefused) wellFormed
        next key afterKey keyRead =>
          have keySuffix := isSuffix_of_takes (takes_of_readString keyRead)
          have nameGap := skipGap_isSuffix afterKey
          split at isRefused
          next valuePart atColon =>
            rw [atColon] at nameGap
            have valueSuffix := ((skipGap_isSuffix valuePart).trans
              (List.suffix_cons _ valuePart)).trans (nameGap.trans keySuffix)
            split at isRefused
            next firstRefused =>
              obtain rfl := Except.error.inj isRefused
              exact (value firstRefused wellFormed).of_suffix valueSuffix
            next first left firstRead =>
              have suffix := (isSuffix_of_takes ((readsSpelled_all depth).1 firstRead)).trans
                valueSuffix
              have gap := skipGap_isSuffix left
              split at isRefused
              next => exact (malformed isRefused).elim
              next d last atMark =>
                rw [atMark] at gap
                have later := ((skipGap_isSuffix last).trans (List.suffix_cons d last)).trans
                  (gap.trans suffix)
                split at isRefused
                next => cases isRefused
                next =>
                  split at isRefused
                  next =>
                    split at isRefused
                    next => cases isRefused
                    next othersRefused =>
                      obtain rfl := Except.error.inj isRefused
                      exact (fields othersRefused wellFormed).of_suffix later
                  next => exact (malformed isRefused).elim
          next => exact (malformed isRefused).elim
      next => exact (malformed isRefused).elim

theorem refusesExcess_all (depth : Nat) :
    RefusesExcess depth ∧ RefusesExcessItems depth ∧ RefusesExcessFields depth := by
  induction depth with
  | zero =>
      refine ⟨?_, ?_, ?_⟩ <;> intro nesting s fault isRefused wellFormed
      · exact absurd (Except.error.inj isRefused).symm wellFormed
      · exact absurd (Except.error.inj isRefused).symm wellFormed
      · exact absurd (Except.error.inj isRefused).symm wellFormed
  | succ depth inductionHypothesis =>
      obtain ⟨value, items, fields⟩ := inductionHypothesis
      exact ⟨refusesExcess_succ items fields, refusesExcessItems_succ value items,
        refusesExcessFields_succ value fields⟩

/-- What is refused and not malformed goes beyond the limits of the reader. -/
theorem exceeds_of_read {s : Text} {fault : Fault} (isRefused : read s = .error fault)
    (wellFormed : fault ≠ .malformed) : Exceeds nestingLimit s fault := by
  unfold read readNested at isRefused
  split at isRefused
  next valueRefused =>
    obtain rfl := Except.error.inj isRefused
    exact ((refusesExcess_all _).1 valueRefused wellFormed).of_suffix (skipGap_isSuffix s)
  next =>
    split at isRefused
    next => cases isRefused
    next => exact absurd (Except.error.inj isRefused).symm wellFormed

/-! ### Line ends -/

/-- No escape by number contains a carriage return. -/
theorem return_notMem_unitEscape (n : Nat) : '\r' ∉ unitEscape n := by
  have digits : ∀ m < 16, '\r' ≠ Text.hexDigit m := by decide
  have digit : ∀ m, '\r' ≠ Text.hexDigit (m % 16) :=
    fun m => digits _ (Nat.mod_lt m (by decide))
  simp only [unitEscape, Text.hex, List.nil_append, List.cons_append, List.mem_cons,
    List.not_mem_nil, or_false, not_or]
  exact ⟨by decide, by decide, digit _, digit _, digit _, digit _⟩

theorem return_notMem_writeChar (c : Char) : '\r' ∉ writeChar c := by
  unfold writeChar
  split
  next letter short =>
    obtain ⟨-, meant, -⟩ := shortEscape?_of_shortLetter? short
    have notLetter : '\r' ≠ letter := by
      rintro rfl
      cases meant
    simp only [List.mem_cons, List.not_mem_nil, or_false, not_or]
    exact ⟨by decide, notLetter⟩
  next =>
    split
    next printable =>
      -- A carriage return is not printable, so it is not written as itself.
      rw [List.mem_singleton]
      rintro rfl
      cases printable
    next =>
      unfold numberEscape
      dsimp only
      split
      · exact return_notMem_unitEscape _
      · rw [List.mem_append, not_or]
        exact ⟨return_notMem_unitEscape _, return_notMem_unitEscape _⟩

theorem return_notMem_writeGlyph (glyph : Glyph) : '\r' ∉ writeGlyph glyph := by
  cases glyph with
  | char c => exact return_notMem_writeChar c
  | half place => exact return_notMem_unitEscape _

theorem return_notMem_writeString (string : Key) : '\r' ∉ writeString string := by
  simp only [writeString, List.cons_append, List.mem_cons, List.mem_append, List.mem_flatMap,
    List.not_mem_nil, or_false, not_or, not_exists, not_and]
  exact ⟨by decide, fun glyph _ => return_notMem_writeGlyph glyph, by decide⟩

theorem return_notMem_lineStart (level : Nat) : '\r' ∉ lineStart level := by
  rw [lineStart, List.mem_cons, List.mem_replicate, not_or]
  exact ⟨by decide, fun blank => absurd blank.2 (by decide)⟩

theorem return_notMem_writeItems {level : Nat} {items : List Value}
    (each : ∀ item ∈ items, '\r' ∉ writeAt level item) : '\r' ∉ writeItems level items := by
  induction items with
  | nil => exact List.not_mem_nil
  | cons item items inductionHypothesis =>
      have first := each item List.mem_cons_self
      have later := inductionHypothesis fun i isLater => each i (List.mem_cons_of_mem _ isLater)
      cases items with
      | nil => rwa [writeItems]
      | cons next items =>
          simp only [writeItems, List.mem_append, List.mem_cons, not_or]
          exact ⟨⟨first, by decide, return_notMem_lineStart level⟩, later⟩

theorem return_notMem_writeFields {level : Nat} {fields : List (Key × Value)}
    (each : ∀ field ∈ fields, '\r' ∉ writeAt level field.2) :
    '\r' ∉ writeFields level fields := by
  have mark : '\r' ∉ (": " : Text) := by decide
  induction fields with
  | nil => exact List.not_mem_nil
  | cons field fields inductionHypothesis =>
      have named := return_notMem_writeString field.1
      have first := each field List.mem_cons_self
      have later := inductionHypothesis fun f isLater => each f (List.mem_cons_of_mem _ isLater)
      cases fields with
      | nil =>
          simp only [writeFields, List.mem_append, not_or]
          exact ⟨⟨named, mark⟩, first⟩
      | cons next fields =>
          simp only [writeFields, List.mem_append, List.mem_cons, not_or]
          exact ⟨⟨⟨⟨named, mark⟩, first⟩, by decide, return_notMem_lineStart level⟩, later⟩

/-- No carriage return is in the text of a value without binary64 numbers. -/
theorem return_notMem_writeAt {value : Value} (noFloat : FloatFree value) (level : Nat) :
    '\r' ∉ writeAt level value := by
  induction noFloat generalizing level with
  | null => exact (by decide : '\r' ∉ ("null" : Text))
  | bool b =>
      cases b
      · exact (by decide : '\r' ∉ ("false" : Text))
      · exact (by decide : '\r' ∉ ("true" : Text))
  | int n =>
      have digits : '\r' ∉ Text.decimal n.natAbs :=
        fun member => absurd (isDigit_of_mem_decimal _ _ member) (by decide)
      rw [writeAt, Text.signedDecimal]
      split
      · rw [List.mem_cons, not_or]
        exact ⟨by decide, digits⟩
      · exact digits
  | text t =>
      rw [writeAt]
      exact return_notMem_writeString (.text t)
  | torn t =>
      rw [writeAt]
      exact return_notMem_writeString (.torn t)
  | @array items _ inductionHypothesis =>
      cases items with
      | nil => exact (by decide : '\r' ∉ ("[]" : Text))
      | cons item items =>
          have inside := return_notMem_writeItems fun i member =>
            inductionHypothesis i member (level + 1)
          simp only [writeAt, List.cons_append, List.mem_cons, List.mem_append, List.not_mem_nil,
            or_false, not_or]
          exact ⟨by decide, ⟨⟨return_notMem_lineStart _, inside⟩, return_notMem_lineStart level⟩,
            by decide⟩
  | @object fields _ inductionHypothesis =>
      cases fields with
      | nil => exact (by decide : '\r' ∉ ([openBrace, closeBrace] : Text))
      | cons field fields =>
          have inside := return_notMem_writeFields fun f member =>
            inductionHypothesis f member (level + 1)
          simp only [writeAt, List.cons_append, List.mem_cons, List.mem_append, List.not_mem_nil,
            or_false, not_or]
          exact ⟨by decide, ⟨⟨return_notMem_lineStart _, inside⟩, return_notMem_lineStart level⟩,
            by decide⟩

end CueWatch.Settings.Json
