import CueWatch.Keyed
import CueWatch.Settings.Value

/-!
Contract: settings values read from JSON text.

Owns:
- `read`, which accepts one value with blanks around it;
- what is read beyond the standard: the numbers `NaN`, `Infinity` and `-Infinity`;
- what is refused beyond it: whole numbers of more than 4300 digits, and arrays and objects that
  are nested too deeply.

Of several fields with one name the last value counts, at the place of the first. A string may be
torn: half of a pair that an escape gives stays as it is. A text that begins with a byte order mark
is malformed.

Does not own: decoding bytes, and what the values mean.
-/

namespace CueWatch.Settings.Json

/-- Why a text is not read. -/
inductive Fault where
  | malformed
  | tooManyDigits (count : Nat)
  /-- Arrays and objects are nested too deeply; named is the kind of the one that is refused. -/
  | tooDeep (kind : Text)
deriving DecidableEq, Repr

/-- What is read at the start of a text, with the rest of the text. -/
abbrev Reading (α : Type) : Type := Except Fault (α × Text)

/-- The blanks between the parts of a value. -/
def isGap (c : Char) : Bool := c = ' ' || c = '\t' || c = '\n' || c = '\r'

/-- The text without the blanks at its start. -/
def skipGap (s : Text) : Text := s.dropWhile isGap

/-- Whether a character is one of the ten digits of numbers. -/
def isDigit (c : Char) : Bool := '0' ≤ c && c ≤ '9'

def hexValue? (c : Char) : Option Nat :=
  if isDigit c then some (c.toNat - 48)
  else if 'a' ≤ c && c ≤ 'f' then some (c.toNat - 87)
  else if 'A' ≤ c && c ≤ 'F' then some (c.toNat - 55)
  else none

def hexUnit? (a b c d : Char) : Option Nat := do
  let a ← hexValue? a
  let b ← hexValue? b
  let c ← hexValue? c
  let d ← hexValue? d
  pure (((a * 16 + b) * 16 + c) * 16 + d)

/-- The character that a short escape stands for. -/
def shortEscape? (c : Char) : Option Char :=
  if c = Text.doubleQuote || c = Text.backslash || c = '/' then some c
  else if c = 'b' then some (Char.ofNat 8)
  else if c = 'f' then some (Char.ofNat 12)
  else if c = 'n' then some '\n'
  else if c = 'r' then some '\r'
  else if c = 't' then some '\t'
  else none

/-- Reads a string up to its closing quote, as the numbers of its characters; an escape by number
may give half of a pair. -/
def readUnits : Text → Option (List Nat × Text)
  | [] => none
  | c :: rest =>
      if c = Text.doubleQuote then some ([], rest)
      else if c = Text.backslash then
        match rest with
        | e :: rest =>
            if e = 'u' then
              match rest with
              | h1 :: h2 :: h3 :: h4 :: rest =>
                  match hexUnit? h1 h2 h3 h4 with
                  | some unit => (readUnits rest).map fun more => (unit :: more.1, more.2)
                  | none => none
              | _ => none
            else
              match shortEscape? e with
              | some meant => (readUnits rest).map fun more => (meant.toNat :: more.1, more.2)
              | none => none
        | [] => none
      else if c.toNat < 0x20 then none
      else (readUnits rest).map fun more => (c.toNat :: more.1, more.2)

/-- Whether a number is the first half of a pair. -/
def isHighHalf (n : Nat) : Bool := 0xD800 ≤ n && n < 0xDC00

/-- Whether a number is the second half of a pair. -/
def isLowHalf (n : Nat) : Bool := 0xDC00 ≤ n && n < 0xE000

/-- The glyph of a number: a character, or half of a pair alone. -/
def unitGlyph (n : Nat) : Glyph :=
  if isHalf : 0xD800 ≤ n ∧ n < 0xE000 then .half ⟨n - 0xD800, by omega⟩ else .char (Char.ofNat n)

/-- The glyphs of a list of numbers, pairs put together. -/
def joinUnits : List Nat → List Glyph
  | [] => []
  | [n] => [unitGlyph n]
  | high :: low :: rest =>
      if isHighHalf high && isLowHalf low then
        .char (Char.ofNat (0x10000 + (high - 0xD800) * 0x400 + (low - 0xDC00))) :: joinUnits rest
      else unitGlyph high :: joinUnits (low :: rest)

theorem isHigh_unitGlyph {n : Nat} (high : (unitGlyph n).isHigh = true) : isHighHalf n = true := by
  unfold unitGlyph at high
  split at high
  next isHalf =>
    simp only [Glyph.isHigh, decide_eq_true_eq] at high
    simp only [isHighHalf, Bool.and_eq_true, decide_eq_true_eq]
    omega
  next => cases high

theorem isLow_unitGlyph {n : Nat} (low : (unitGlyph n).isLow = true) : isLowHalf n = true := by
  unfold unitGlyph at low
  split at low
  next isHalf =>
    simp only [Glyph.isLow, decide_eq_true_eq] at low
    simp only [isLowHalf, Bool.and_eq_true, decide_eq_true_eq]
    omega
  next => cases low

/-- Glyphs that are put together from numbers begin with a second half only if the numbers do. -/
theorem exists_joinUnits_cons (n : Nat) (rest : List Nat) :
    ∃ glyph others, joinUnits (n :: rest) = glyph :: others ∧
      (glyph.isLow = true → isLowHalf n = true) := by
  cases rest with
  | nil => exact ⟨_, _, rfl, isLow_unitGlyph⟩
  | cons low rest =>
      rw [joinUnits]
      split
      · exact ⟨_, _, rfl, by rintro ⟨⟩⟩
      · exact ⟨_, _, rfl, isLow_unitGlyph⟩

/-- No pair is left to be put together. -/
theorem isSettled_joinUnits (units : List Nat) : Glyph.isSettled (joinUnits units) = true := by
  fun_induction joinUnits units with
  | case1 | case2 => rfl
  | case3 high low rest isPair inductionHypothesis =>
      cases later : joinUnits rest with
      | nil => rfl
      | cons glyph others =>
          rw [later] at inductionHypothesis
          exact inductionHypothesis
  | case4 high low rest isNoPair inductionHypothesis =>
      obtain ⟨glyph, others, later, isLow⟩ := exists_joinUnits_cons low rest
      rw [later] at inductionHypothesis ⊢
      rw [Glyph.isSettled, inductionHypothesis, Bool.and_true, Bool.not_eq_true',
        Bool.eq_false_iff, Ne, Bool.and_eq_true]
      rintro ⟨first, second⟩
      exact isNoPair (by rw [isHigh_unitGlyph first, isLow second]; rfl)

/-- The string of a list of numbers. -/
def stringOf (units : List Nat) : Key := .ofGlyphs (joinUnits units) (isSettled_joinUnits units)

/-- Reads a string after its opening quote. -/
def readString (s : Text) : Reading Key :=
  match readUnits s with
  | some (units, rest) => .ok (stringOf units, rest)
  | none => .error .malformed

/-- A number as written: whether it is negative, its digits before and after the point, and its
exponent. -/
structure Numeral where
  negative : Bool
  whole : Text
  fraction : Option Text
  exponent : Option (Bool × Text)
deriving DecidableEq, Repr

/-- Reads the digits after a point, if there are any. -/
def readFraction : Text → Option Text × Text
  | '.' :: rest =>
      if (rest.takeWhile isDigit).isEmpty then (none, '.' :: rest)
      else (some (rest.takeWhile isDigit), rest.dropWhile isDigit)
  | s => (none, s)

/-- Reads the sign of an exponent: whether it is negative. -/
def readSign : Text → Bool × Text
  | '-' :: rest => (true, rest)
  | '+' :: rest => (false, rest)
  | s => (false, s)

/-- Reads an exponent, if there is one. -/
def readExponent : Text → Option (Bool × Text) × Text
  | [] => (none, [])
  | mark :: rest =>
      let (negative, digits) := readSign rest
      if (mark = 'e' || mark = 'E') && !(digits.takeWhile isDigit).isEmpty then
        (some (negative, digits.takeWhile isDigit), digits.dropWhile isDigit)
      else (none, mark :: rest)

/-- Reads the digits before the point: a zero, or digits that do not begin with one. -/
def readWhole : Text → Option (Text × Text)
  | '0' :: rest => some (['0'], rest)
  | s =>
      if (s.takeWhile isDigit).isEmpty then none
      else some (s.takeWhile isDigit, s.dropWhile isDigit)

def readNumeral (s : Text) : Option (Numeral × Text) :=
  let (negative, unsigned) :=
    match s with
    | '-' :: rest => (true, rest)
    | _ => (false, s)
  match readWhole unsigned with
  | none => none
  | some (whole, rest) =>
      let (fraction, rest) := readFraction rest
      let (exponent, rest) := readExponent rest
      some (⟨negative, whole, fraction, exponent⟩, rest)

def exponentValue : Option (Bool × Text) → Int
  | none => 0
  | some (true, digits) => -(Text.numeralValue digits : Int)
  | some (false, digits) => Text.numeralValue digits

/-- The most digits of a whole number. -/
def digitLimit : Nat := 4300

/-- The value of a number: whole if it has neither a point nor an exponent. -/
def Numeral.value (numeral : Numeral) : Except Fault Value :=
  if numeral.fraction.isNone && numeral.exponent.isNone then
    if digitLimit < numeral.whole.length then .error (.tooManyDigits numeral.whole.length)
    else
      let magnitude : Int := Text.numeralValue numeral.whole
      .ok (.int (if numeral.negative then -magnitude else magnitude))
  else
    let fraction := numeral.fraction.getD []
    .ok (.float (Binary64.ofDecimal numeral.negative
      (Text.numeralValue (numeral.whole ++ fraction))
      (exponentValue numeral.exponent - fraction.length)))

def readNumber (s : Text) : Reading Value :=
  match readNumeral s with
  | none => .error .malformed
  | some (numeral, rest) => numeral.value.map fun value => (value, rest)

/-- The values that are written as words. -/
def words : List (Text × Value) :=
  [ ("null", .null), ("true", .bool true), ("false", .bool false), ("NaN", .float .nan),
    ("Infinity", .float (.infinite false)), ("-Infinity", .float (.infinite true)) ]

/-- Reads a value that is written as a word, or else a number. -/
def readScalar (s : Text) : Reading Value :=
  match words.find? fun word => word.1.isPrefixOf s with
  | some word => .ok (word.2, s.drop word.1.length)
  | none => readNumber s

def openBrace : Char := Char.ofNat 0x7B

def closeBrace : Char := Char.ofNat 0x7D

/-- The deepest nesting of arrays and objects. -/
def nestingLimit : Nat := 985

mutual

/-- Reads a value at the start of a text in which `nesting` arrays and objects may still be opened
inside each other. The first count bounds the depth of the recursion. -/
def readValue : Nat → Nat → Text → Reading Value
  | 0, _, _ => .error .malformed
  | _ + 1, _, [] => .error .malformed
  | depth + 1, nesting, c :: rest =>
      if c = Text.doubleQuote then
        match readString rest with
        | .ok (string, rest) => .ok (.ofKey string, rest)
        | .error fault => .error fault
      else if c = '[' then
        match nesting with
        | 0 => .error (.tooDeep "array")
        | inner + 1 =>
            match skipGap rest with
            | ']' :: rest => .ok (.array [], rest)
            | rest =>
                match readItems depth inner rest with
                | .ok (items, rest) => .ok (.array items, rest)
                | .error fault => .error fault
      else if c = openBrace then
        match nesting with
        | 0 => .error (.tooDeep "object")
        | inner + 1 =>
            match skipGap rest with
            | [] => .error .malformed
            | d :: rest =>
                if d = closeBrace then .ok (.object [], rest)
                else
                  match readFields depth inner (d :: rest) with
                  | .ok (fields, rest) => .ok (.object (Keyed.merge [] fields), rest)
                  | .error fault => .error fault
      else readScalar (c :: rest)

/-- Reads the items of an array up to its end. -/
def readItems : Nat → Nat → Text → Reading (List Value)
  | 0, _, _ => .error .malformed
  | depth + 1, nesting, s =>
      match readValue depth nesting s with
      | .error fault => .error fault
      | .ok (item, rest) =>
          match skipGap rest with
          | ']' :: rest => .ok ([item], rest)
          | ',' :: rest =>
              match readItems depth nesting (skipGap rest) with
              | .ok (items, rest) => .ok (item :: items, rest)
              | .error fault => .error fault
          | _ => .error .malformed

/-- Reads the fields of an object up to its end. -/
def readFields : Nat → Nat → Text → Reading (List (Key × Value))
  | 0, _, _ => .error .malformed
  | _ + 1, _, [] => .error .malformed
  | depth + 1, nesting, c :: s =>
      if c = Text.doubleQuote then
        match readString s with
        | .error fault => .error fault
        | .ok (key, rest) =>
            match skipGap rest with
            | ':' :: rest =>
                match readValue depth nesting (skipGap rest) with
                | .error fault => .error fault
                | .ok (value, rest) =>
                    match skipGap rest with
                    | [] => .error .malformed
                    | d :: rest =>
                        if d = closeBrace then .ok ([(key, value)], rest)
                        else if d = ',' then
                          match readFields depth nesting (skipGap rest) with
                          | .ok (fields, rest) => .ok ((key, value) :: fields, rest)
                          | .error fault => .error fault
                        else .error .malformed
            | _ => .error .malformed
      else .error .malformed

end

/-- A recursion deep enough for every value that a text can hold. -/
def sufficientDepth (s : Text) : Nat := 2 * s.length + 2

/-- Reads a text that holds one value and blanks around it; at most `nesting` of its arrays and
objects are inside each other. -/
def readNested (nesting : Nat) (s : Text) : Except Fault Value :=
  match readValue (sufficientDepth s) nesting (skipGap s) with
  | .error fault => .error fault
  | .ok (value, rest) => if (skipGap rest).isEmpty then .ok value else .error .malformed

/-- Reads a text that holds one value and blanks around it. -/
def read (s : Text) : Except Fault Value := readNested nestingLimit s

end CueWatch.Settings.Json
