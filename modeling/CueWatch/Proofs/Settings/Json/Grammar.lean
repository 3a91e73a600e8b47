import CueWatch.Settings.Json.Reader
import Mathlib.Data.List.TakeWhile

/-!
Contract: the grammar of JSON text, and that the reader accepts nothing else.

Owns:
- `Spells`, the texts that spell a value, with the relations for the parts of a value that it is
  made of: strings, numerals, items and fields;
- that what the reader takes from the start of a text spells the value that it gives.

Values are spelled within a limit to how deeply arrays and objects are nested. A numeral that has no
value, because it has too many digits, spells nothing.

Does not own: that everything that is spelled is read (`Proofs.Settings.Json.Acceptance`).
-/

namespace CueWatch.Settings.Json

/-! ### Strings and numerals -/

/-- A text of blanks only. -/
def IsBlank (gap : Text) : Prop := ∀ c ∈ gap, isGap c = true

instance (gap : Text) : Decidable (IsBlank gap) :=
  List.decidableBAll (fun c => isGap c = true) gap

/-- The texts that spell the numbers of a string's characters, between the quotes. -/
inductive SpellsUnits : Text → List Nat → Prop
  | nil : SpellsUnits [] []
  | plain {c : Char} {t : Text} {units : List Nat} (notQuote : c ≠ Text.doubleQuote)
      (notBackslash : c ≠ Text.backslash) (visible : ¬ c.toNat < 0x20)
      (later : SpellsUnits t units) : SpellsUnits (c :: t) (c.toNat :: units)
  | escape {letter meant : Char} {t : Text} {units : List Nat} (notNumber : letter ≠ 'u')
      (means : shortEscape? letter = some meant) (later : SpellsUnits t units) :
      SpellsUnits (Text.backslash :: letter :: t) (meant.toNat :: units)
  | number {a b c d : Char} {unit : Nat} {t : Text} {units : List Nat}
      (means : hexUnit? a b c d = some unit) (later : SpellsUnits t units) :
      SpellsUnits (Text.backslash :: 'u' :: a :: b :: c :: d :: t) (unit :: units)

/-- The texts that spell a string, with its quotes. -/
inductive SpellsString : Text → Key → Prop
  | quoted {t : Text} {units : List Nat} (spelled : SpellsUnits t units) :
      SpellsString (Text.doubleQuote :: (t ++ [Text.doubleQuote])) (stringOf units)

/-- At least one digit, and nothing else. -/
structure IsDigits (t : Text) : Prop where
  nonempty : t ≠ []
  each : ∀ c ∈ t, isDigit c = true

/-- The digits before a point: a zero, or digits that do not begin with one. -/
def IsWhole (t : Text) : Prop := t = ['0'] ∨ IsDigits t ∧ t.head? ≠ some '0'

/-- The texts that spell the digits after a point, or none. -/
inductive SpellsFraction : Text → Option Text → Prop
  | none : SpellsFraction [] none
  | digits {t : Text} (isDigits : IsDigits t) : SpellsFraction ('.' :: t) (some t)

/-- The texts that spell the sign of an exponent: whether it is negative. -/
inductive SpellsSign : Text → Bool → Prop
  | none : SpellsSign [] false
  | plus : SpellsSign ['+'] false
  | minus : SpellsSign ['-'] true

/-- The texts that spell an exponent, or none. -/
inductive SpellsExponent : Text → Option (Bool × Text) → Prop
  | none : SpellsExponent [] none
  | digits {mark : Char} {sign t : Text} {negative : Bool} (isMark : mark = 'e' ∨ mark = 'E')
      (signed : SpellsSign sign negative) (isDigits : IsDigits t) :
      SpellsExponent (mark :: (sign ++ t)) (some (negative, t))

/-- What stands before a numeral. -/
def minus (negative : Bool) : Text := if negative then ['-'] else []

/-- The texts that spell a numeral. -/
inductive SpellsNumeral : Text → Numeral → Prop
  | parts {whole fractionText exponentText : Text} {fraction : Option Text}
      {exponent : Option (Bool × Text)} (negative : Bool) (isWhole : IsWhole whole)
      (fractional : SpellsFraction fractionText fraction)
      (exponential : SpellsExponent exponentText exponent) :
      SpellsNumeral (minus negative ++ (whole ++ (fractionText ++ exponentText)))
        ⟨negative, whole, fraction, exponent⟩

/-! ### Values -/

mutual

/-- The texts that spell a value in which at most `nesting` arrays and objects are inside each
other. Of several fields of an object with one name the last value counts. -/
inductive Spells : Nat → Text → Value → Prop
  | word {nesting : Nat} {word : Text × Value} (isWord : word ∈ words) :
      Spells nesting word.1 word.2
  | number {nesting : Nat} {t : Text} {numeral : Numeral} {value : Value}
      (spelled : SpellsNumeral t numeral) (valued : numeral.value = .ok value) :
      Spells nesting t value
  | string {nesting : Nat} {t : Text} {string : Key} (spelled : SpellsString t string) :
      Spells nesting t (.ofKey string)
  | noItems {nesting : Nat} {gap : Text} (blank : IsBlank gap) :
      Spells (nesting + 1) ('[' :: (gap ++ [']'])) (.array [])
  | array {nesting : Nat} {gap t : Text} {items : List Value} (blank : IsBlank gap)
      (spelled : SpellsItems nesting t items) :
      Spells (nesting + 1) ('[' :: (gap ++ (t ++ [']']))) (.array items)
  | object {nesting : Nat} {t : Text} {fields : List (Key × Value)}
      (spelled : SpellsObject nesting t fields) :
      Spells (nesting + 1) t (.object (Keyed.merge [] fields))

/-- The texts that spell the items of an array, of which there is at least one. -/
inductive SpellsItems : Nat → Text → List Value → Prop
  | last {nesting : Nat} {t gap : Text} {item : Value} (spelled : Spells nesting t item)
      (blank : IsBlank gap) : SpellsItems nesting (t ++ gap) [item]
  | more {nesting : Nat} {t before after later : Text} {item : Value} {items : List Value}
      (spelled : Spells nesting t item) (blankBefore : IsBlank before) (blankAfter : IsBlank after)
      (others : SpellsItems nesting later items) :
      SpellsItems nesting (t ++ (before ++ ',' :: (after ++ later))) (item :: items)

/-- The texts that spell an object with these fields, in this order. -/
inductive SpellsObject : Nat → Text → List (Key × Value) → Prop
  | noFields {nesting : Nat} {gap : Text} (blank : IsBlank gap) :
      SpellsObject nesting (openBrace :: (gap ++ [closeBrace])) []
  | fields {nesting : Nat} {gap t : Text} {fields : List (Key × Value)} (blank : IsBlank gap)
      (spelled : SpellsFields nesting t fields) :
      SpellsObject nesting (openBrace :: (gap ++ (t ++ [closeBrace]))) fields

/-- The texts that spell the fields of an object, of which there is at least one. -/
inductive SpellsFields : Nat → Text → List (Key × Value) → Prop
  | last {nesting : Nat} {t gap : Text} {field : Key × Value}
      (spelled : SpellsField nesting t field) (blank : IsBlank gap) :
      SpellsFields nesting (t ++ gap) [field]
  | more {nesting : Nat} {t before after later : Text} {field : Key × Value}
      {fields : List (Key × Value)} (spelled : SpellsField nesting t field)
      (blankBefore : IsBlank before) (blankAfter : IsBlank after)
      (others : SpellsFields nesting later fields) :
      SpellsFields nesting (t ++ (before ++ ',' :: (after ++ later))) (field :: fields)

/-- The texts that spell a key and its value. -/
inductive SpellsField : Nat → Text → Key × Value → Prop
  | pair {nesting : Nat} {name before after t : Text} {key : Key} {value : Value}
      (named : SpellsString name key) (blankBefore : IsBlank before) (blankAfter : IsBlank after)
      (spelled : Spells nesting t value) :
      SpellsField nesting (name ++ (before ++ ':' :: (after ++ t))) (key, value)

end

/-- A text in which something stands between blanks. -/
def InGaps (holds : Text → Prop) (s : Text) : Prop :=
  ∃ before t after, s = before ++ (t ++ after) ∧ IsBlank before ∧ IsBlank after ∧ holds t

/-- A whole text that spells a value. -/
def IsValueText (s : Text) (value : Value) : Prop := InGaps (Spells nestingLimit · value) s

/-- A whole text that spells an object with these fields, in this order. -/
def IsObjectText (s : Text) (fields : List (Key × Value)) : Prop :=
  InGaps (SpellsObject (nestingLimit - 1) · fields) s

/-! ### What is taken from a text -/

/-- What is read from the start of a text, and the rest, when it spells what it gives. -/
def Takes {α : Type} (spells : Text → α → Prop) (s : Text) (given : α) (rest : Text) : Prop :=
  ∃ t, s = t ++ rest ∧ spells t given

theorem exists_of_skipGap (s : Text) : ∃ gap, s = gap ++ skipGap s ∧ IsBlank gap :=
  ⟨s.takeWhile isGap, List.takeWhile_append_dropWhile.symm, fun _ => List.mem_takeWhile_imp⟩

theorem exists_of_readUnits {s rest : Text} {units : List Nat}
    (isRead : readUnits s = some (units, rest)) :
    ∃ t, s = t ++ Text.doubleQuote :: rest ∧ SpellsUnits t units := by
  fun_induction readUnits s generalizing units with
  | case1 => cases isRead
  | case2 after =>
      obtain ⟨rfl, rfl⟩ := Prod.mk.inj (Option.some.inj isRead)
      exact ⟨[], rfl, .nil⟩
  | case3 a b c d after unit means notQuote inductionHypothesis =>
      obtain ⟨more, isLater, same⟩ := Option.map_eq_some_iff.mp isRead
      obtain ⟨rfl, rfl⟩ := Prod.mk.inj same
      obtain ⟨t, rfl, spelled⟩ := inductionHypothesis isLater
      exact ⟨_, rfl, .number means spelled⟩
  | case6 letter after notNumber meant means notQuote inductionHypothesis =>
      obtain ⟨more, isLater, same⟩ := Option.map_eq_some_iff.mp isRead
      obtain ⟨rfl, rfl⟩ := Prod.mk.inj same
      obtain ⟨t, rfl, spelled⟩ := inductionHypothesis isLater
      exact ⟨_, rfl, .escape notNumber means spelled⟩
  | case10 c after notQuote notBackslash visible inductionHypothesis =>
      obtain ⟨more, isLater, same⟩ := Option.map_eq_some_iff.mp isRead
      obtain ⟨rfl, rfl⟩ := Prod.mk.inj same
      obtain ⟨t, rfl, spelled⟩ := inductionHypothesis isLater
      exact ⟨_, rfl, .plain notQuote notBackslash visible spelled⟩
  | case4 | case5 | case7 | case8 | case9 => cases isRead

theorem takes_of_readString {s rest : Text} {string : Key}
    (isRead : readString s = .ok (string, rest)) :
    Takes SpellsString (Text.doubleQuote :: s) string rest := by
  unfold readString at isRead
  split at isRead
  next units left unitsRead =>
    obtain ⟨rfl, rfl⟩ := Prod.mk.inj (Except.ok.inj isRead)
    obtain ⟨t, rfl, spelled⟩ := exists_of_readUnits unitsRead
    refine ⟨_, ?_, .quoted spelled⟩
    rw [List.cons_append, List.append_assoc, List.singleton_append]
  next => cases isRead

theorem isDigits_takeWhile {s : Text} (nonempty : (s.takeWhile isDigit).isEmpty = false) :
    IsDigits (s.takeWhile isDigit) :=
  ⟨List.isEmpty_eq_false_iff.mp nonempty, fun _ => List.mem_takeWhile_imp⟩

theorem append_of_readWhole {s rest whole : Text} (isRead : readWhole s = some (whole, rest)) :
    s = whole ++ rest ∧ IsWhole whole := by
  unfold readWhole at isRead
  split at isRead
  next after =>
    obtain ⟨rfl, rfl⟩ := Prod.mk.inj (Option.some.inj isRead)
    exact ⟨rfl, .inl rfl⟩
  next notZero =>
    split at isRead
    next => cases isRead
    next nonempty =>
      obtain ⟨rfl, rfl⟩ := Prod.mk.inj (Option.some.inj isRead)
      have isDigits := isDigits_takeWhile (by simpa using nonempty)
      refine ⟨List.takeWhile_append_dropWhile.symm, .inr ⟨isDigits, ?_⟩⟩
      intro zero
      cases s with
      | nil => cases zero
      | cons c s =>
          rw [List.takeWhile_cons] at zero
          split at zero
          next => exact notZero s (by rw [Option.some.inj zero])
          next => cases zero

theorem takes_of_readFraction (s : Text) :
    Takes SpellsFraction s (readFraction s).1 (readFraction s).2 := by
  unfold readFraction
  split
  next after =>
    split
    next => exact ⟨[], rfl, .none⟩
    next nonempty =>
      refine ⟨_, ?_, .digits (isDigits_takeWhile (by simpa using nonempty))⟩
      rw [List.cons_append, List.takeWhile_append_dropWhile]
  next => exact ⟨[], rfl, .none⟩

theorem takes_of_readSign (s : Text) : Takes SpellsSign s (readSign s).1 (readSign s).2 := by
  unfold readSign
  split
  next => exact ⟨_, rfl, .minus⟩
  next => exact ⟨_, rfl, .plus⟩
  next => exact ⟨_, rfl, .none⟩

theorem takes_of_readExponent (s : Text) :
    Takes SpellsExponent s (readExponent s).1 (readExponent s).2 := by
  cases s with
  | nil => exact ⟨[], rfl, .none⟩
  | cons mark after =>
      obtain ⟨sign, same, signed⟩ := takes_of_readSign after
      unfold readExponent
      dsimp only
      split
      next found =>
        simp only [Bool.and_eq_true, Bool.or_eq_true, decide_eq_true_eq, Bool.not_eq_true'] at found
        refine ⟨_, ?_, .digits found.1 signed (isDigits_takeWhile found.2)⟩
        rw [List.cons_append, List.append_assoc, List.takeWhile_append_dropWhile, ← same]
      next => exact ⟨[], rfl, .none⟩

theorem takes_of_readNumeral {s rest : Text} {numeral : Numeral}
    (isRead : readNumeral s = some (numeral, rest)) : Takes SpellsNumeral s numeral rest := by
  unfold readNumeral at isRead
  split at isRead
  next negative unsigned signed =>
    have whole : s = minus negative ++ unsigned := by
      split at signed
      all_goals
        obtain ⟨rfl, rfl⟩ := Prod.mk.inj signed
        rfl
    split at isRead
    next => cases isRead
    next digits afterWhole wholeRead =>
      obtain ⟨rfl, isWhole⟩ := append_of_readWhole wholeRead
      obtain ⟨fractionText, sameFraction, fractional⟩ := takes_of_readFraction afterWhole
      cases fractionRead : readFraction afterWhole with
      | mk fraction afterFraction =>
          rw [fractionRead] at isRead sameFraction fractional
          obtain ⟨exponentText, sameExponent, exponential⟩ := takes_of_readExponent afterFraction
          cases exponentRead : readExponent afterFraction with
          | mk exponent afterExponent =>
              simp only [exponentRead] at isRead sameExponent exponential
              obtain ⟨rfl, rfl⟩ := Prod.mk.inj (Option.some.inj isRead)
              refine ⟨_, ?_, .parts negative isWhole fractional exponential⟩
              simp only [whole, sameFraction, sameExponent, List.append_assoc]

theorem takes_of_readScalar {nesting : Nat} {s rest : Text} {value : Value}
    (isRead : readScalar s = .ok (value, rest)) : Takes (Spells nesting) s value rest := by
  unfold readScalar at isRead
  split at isRead
  next word found =>
    obtain ⟨rfl, rfl⟩ := Prod.mk.inj (Except.ok.inj isRead)
    have starts := List.find?_some found
    obtain ⟨after, rfl⟩ := List.isPrefixOf_iff_prefix.mp starts
    exact ⟨_, by rw [List.drop_left], .word (List.mem_of_find?_eq_some found)⟩
  next =>
    unfold readNumber at isRead
    split at isRead
    next => cases isRead
    next numeral left numeralRead =>
      cases valued : numeral.value with
      | error fault =>
          rw [valued] at isRead
          cases isRead
      | ok own =>
          rw [valued] at isRead
          obtain ⟨rfl, rfl⟩ := Prod.mk.inj (Except.ok.inj isRead)
          obtain ⟨t, same, spelled⟩ := takes_of_readNumeral numeralRead
          exact ⟨t, same, .number spelled valued⟩

/-! ### Arrays and objects -/

/-- What is read as a value by a recursion of a depth spells that value. -/
def ReadsSpelled (depth : Nat) : Prop :=
  ∀ {nesting s value rest}, readValue depth nesting s = .ok (value, rest) →
    Takes (Spells nesting) s value rest

/-- What is read as items by a recursion of a depth spells them and ends with a bracket. -/
def ReadsSpelledItems (depth : Nat) : Prop :=
  ∀ {nesting s items rest}, readItems depth nesting s = .ok (items, rest) →
    Takes (SpellsItems nesting) s items (']' :: rest)

/-- What is read as fields by a recursion of a depth spells them and ends with a brace. -/
def ReadsSpelledFields (depth : Nat) : Prop :=
  ∀ {nesting s fields rest}, readFields depth nesting s = .ok (fields, rest) →
    Takes (SpellsFields nesting) s fields (closeBrace :: rest)

theorem readsSpelled_succ {depth : Nat} (items : ReadsSpelledItems depth)
    (fields : ReadsSpelledFields depth) : ReadsSpelled (depth + 1) := by
  intro nesting s value rest isRead
  rw [readValue.eq_def] at isRead
  cases s with
  | nil => cases isRead
  | cons c more =>
      dsimp only at isRead
      obtain ⟨gap, after, blank⟩ := exists_of_skipGap more
      -- The first character decides: a quote, a bracket, a brace, or a word or number.
      split at isRead
      next atQuote =>
        subst atQuote
        split at isRead
        next stringRead =>
          obtain ⟨rfl, rfl⟩ := Prod.mk.inj (Except.ok.inj isRead)
          obtain ⟨t, same, spelled⟩ := takes_of_readString stringRead
          exact ⟨t, same, .string spelled⟩
        next => cases isRead
      next =>
        split at isRead
        next atBracket =>
          subst atBracket
          cases nesting with
          | zero => cases isRead
          | succ inner =>
              dsimp only at isRead
              split at isRead
              next closed =>
                obtain ⟨rfl, rfl⟩ := Prod.mk.inj (Except.ok.inj isRead)
                refine ⟨_, ?_, .noItems blank⟩
                rw [after, closed, List.cons_append, List.append_assoc, List.singleton_append]
              next =>
                split at isRead
                next itemsRead =>
                  obtain ⟨rfl, rfl⟩ := Prod.mk.inj (Except.ok.inj isRead)
                  obtain ⟨t, same, spelled⟩ := items itemsRead
                  refine ⟨_, ?_, .array blank spelled⟩
                  rw [after, same, List.cons_append, List.append_assoc, List.append_assoc,
                    List.singleton_append]
                next => cases isRead
        next =>
          split at isRead
          next atBrace =>
            subst atBrace
            cases nesting with
            | zero => cases isRead
            | succ inner =>
                dsimp only at isRead
                split at isRead
                next => cases isRead
                next opened =>
                  split at isRead
                  next atEnd =>
                    obtain ⟨rfl, rfl⟩ := Prod.mk.inj (Except.ok.inj isRead)
                    refine ⟨_, ?_, .object (.noFields blank)⟩
                    rw [after, opened, atEnd, List.cons_append, List.append_assoc,
                      List.singleton_append]
                  next =>
                    split at isRead
                    next fieldsRead =>
                      obtain ⟨rfl, rfl⟩ := Prod.mk.inj (Except.ok.inj isRead)
                      obtain ⟨t, same, spelled⟩ := fields fieldsRead
                      refine ⟨_, ?_, .object (.fields blank spelled)⟩
                      rw [after, opened, same, List.cons_append, List.append_assoc,
                        List.append_assoc, List.singleton_append]
                    next => cases isRead
          next => exact takes_of_readScalar isRead

theorem readsSpelledItems_succ {depth : Nat} (value : ReadsSpelled depth)
    (items : ReadsSpelledItems depth) : ReadsSpelledItems (depth + 1) := by
  intro nesting s given rest isRead
  rw [readItems] at isRead
  split at isRead
  next => cases isRead
  next first left firstRead =>
    obtain ⟨t, rfl, spelled⟩ := value firstRead
    obtain ⟨before, afterFirst, blankBefore⟩ := exists_of_skipGap left
    split at isRead
    next closed =>
      obtain ⟨rfl, rfl⟩ := Prod.mk.inj (Except.ok.inj isRead)
      refine ⟨_, ?_, .last spelled blankBefore⟩
      rw [List.append_assoc, ← closed, ← afterFirst]
    next more atComma =>
      obtain ⟨after, afterComma, blankAfter⟩ := exists_of_skipGap more
      split at isRead
      next others _ othersRead =>
        obtain ⟨rfl, rfl⟩ := Prod.mk.inj (Except.ok.inj isRead)
        obtain ⟨later, same, othersSpelled⟩ := items othersRead
        refine ⟨_, ?_, .more spelled blankBefore blankAfter othersSpelled⟩
        simp only [List.append_assoc, List.cons_append]
        rw [← same, ← afterComma, ← atComma, ← afterFirst]
      next => cases isRead
    next => cases isRead

theorem readsSpelledFields_succ {depth : Nat} (value : ReadsSpelled depth)
    (fields : ReadsSpelledFields depth) : ReadsSpelledFields (depth + 1) := by
  intro nesting s given rest isRead
  rw [readFields.eq_def] at isRead
  cases s with
  | nil => cases isRead
  | cons c more =>
      dsimp only at isRead
      split at isRead
      next atQuote =>
        subst atQuote
        split at isRead
        next => cases isRead
        next key afterKey keyRead =>
          obtain ⟨name, sameName, named⟩ := takes_of_readString keyRead
          obtain ⟨beforeColon, afterName, blankName⟩ := exists_of_skipGap afterKey
          split at isRead
          next valuePart atColon =>
            obtain ⟨afterColon, gapColon, blankColon⟩ := exists_of_skipGap valuePart
            split at isRead
            next => cases isRead
            next first left firstRead =>
              obtain ⟨t, same, spelled⟩ := value firstRead
              obtain ⟨before, afterFirst, blankBefore⟩ := exists_of_skipGap left
              have field := SpellsField.pair named blankName blankColon spelled
              have whole : Text.doubleQuote :: more =
                  name ++ (beforeColon ++ ':' :: (afterColon ++ t)) ++ left := by
                rw [sameName, afterName, atColon, gapColon, same]
                simp only [List.append_assoc, List.cons_append]
              rw [whole]
              split at isRead
              next => cases isRead
              next d last atMark =>
                rw [atMark] at afterFirst
                split at isRead
                next atEnd =>
                  obtain ⟨rfl, rfl⟩ := Prod.mk.inj (Except.ok.inj isRead)
                  refine ⟨_, ?_, .last field blankBefore⟩
                  rw [List.append_assoc _ before, ← atEnd, ← afterFirst]
                next =>
                  split at isRead
                  next atComma =>
                    obtain ⟨after, afterComma, blankAfter⟩ := exists_of_skipGap last
                    split at isRead
                    next others _ othersRead =>
                      obtain ⟨rfl, rfl⟩ := Prod.mk.inj (Except.ok.inj isRead)
                      obtain ⟨later, sameLater, othersSpelled⟩ := fields othersRead
                      refine ⟨_, ?_, .more field blankBefore blankAfter othersSpelled⟩
                      rw [afterFirst, atComma, afterComma, sameLater]
                      simp only [List.append_assoc, List.cons_append]
                    next => cases isRead
                  next => cases isRead
          next => cases isRead
      next => cases isRead

theorem readsSpelled_all (depth : Nat) :
    ReadsSpelled depth ∧ ReadsSpelledItems depth ∧ ReadsSpelledFields depth := by
  -- The three readers call each other, so the induction is on the depth that they share.
  induction depth with
  | zero =>
      refine ⟨?_, ?_, ?_⟩
      · intro nesting s value rest isRead
        cases isRead
      · intro nesting s items rest isRead
        cases isRead
      · intro nesting s fields rest isRead
        cases isRead
  | succ depth inductionHypothesis =>
      obtain ⟨value, items, fields⟩ := inductionHypothesis
      exact ⟨readsSpelled_succ items fields, readsSpelledItems_succ value items,
        readsSpelledFields_succ value fields⟩

theorem isBlank_of_skipGap {s : Text} (nothing : skipGap s = []) : IsBlank s := by
  obtain ⟨gap, same, blank⟩ := exists_of_skipGap s
  rw [nothing, List.append_nil] at same
  rwa [same]

/-- A text that is read spells the value that is read from it. -/
theorem isValueText_of_read {s : Text} {value : Value} (isRead : read s = .ok value) :
    IsValueText s value := by
  unfold read readNested at isRead
  split at isRead
  next => cases isRead
  next found rest valueRead =>
    split at isRead
    next atEnd =>
      obtain rfl := Except.ok.inj isRead
      obtain ⟨before, afterGap, blank⟩ := exists_of_skipGap s
      obtain ⟨t, same, spelled⟩ := (readsSpelled_all _).1 valueRead
      refine ⟨before, t, rest, ?_, blank, isBlank_of_skipGap (List.isEmpty_iff.mp atEnd), spelled⟩
      rw [← same, ← afterGap]
    next => cases isRead

/-- What spells an object spells its fields, some of which may be given again. -/
theorem exists_spellsObject {nesting : Nat} {t : Text} {fields : List (Key × Value)}
    (spelled : Spells nesting t (.object fields)) :
    ∃ given, SpellsObject (nesting - 1) t given ∧ fields = Keyed.merge [] given := by
  generalize same : Value.object fields = value at spelled
  cases spelled with
  | @word _ word isWord =>
      simp only [words, List.mem_cons, List.not_mem_nil, or_false] at isWord
      rcases isWord with rfl | rfl | rfl | rfl | rfl | rfl <;> cases same
  | number _ valued =>
      subst same
      unfold Numeral.value at valued
      split at valued
      · split at valued <;> cases valued
      · cases valued
  | object spelled =>
      obtain rfl := Value.object.inj same
      exact ⟨_, spelled, rfl⟩
  | @string _ _ string =>
      cases string <;> cases same
  | noItems | array => cases same

/-- A text from which an object is read spells the fields of that object. -/
theorem exists_isObjectText_of_read {s : Text} {fields : List (Key × Value)}
    (isRead : read s = .ok (.object fields)) :
    ∃ given, IsObjectText s given ∧ fields = Keyed.merge [] given := by
  obtain ⟨before, t, after, same, blankBefore, blankAfter, spelled⟩ := isValueText_of_read isRead
  obtain ⟨given, isObject, merged⟩ := exists_spellsObject spelled
  exact ⟨given, ⟨before, t, after, same, blankBefore, blankAfter, isObject⟩, merged⟩

end CueWatch.Settings.Json
