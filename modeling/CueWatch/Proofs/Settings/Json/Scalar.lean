import CueWatch.Proofs.Settings.Json.Grammar
import CueWatch.Proofs.Text.Numeral
import CueWatch.Settings.Json.Writer
import Mathlib.Data.List.Basic

/-!
Contract: strings and whole numbers are written as texts that spell them.

Owns:
- `units`, the numbers that a character is written by: one, or a pair beyond four hexadecimal
  digits;
- the strings that are spelled, glyph by glyph;
- `IsReadable`, the whole numbers that have no more digits than are read, and their numerals.

Does not own: arrays and objects (`Proofs.Settings.Json.RoundTrip`).
-/

namespace CueWatch.Settings.Json

/-! ### Escapes -/

theorem hexValue?_hexDigit : ∀ n < 16, hexValue? (Text.hexDigit n) = some n := by
  decide

theorem hexUnit?_hex {n : Nat} (small : n < 0x10000) :
    ∃ a b c d, Text.hex 4 n = [a, b, c, d] ∧ hexUnit? a b c d = some n := by
  refine ⟨_, _, _, _, rfl, ?_⟩
  have digit : ∀ m, hexValue? (Text.hexDigit (m % 16)) = some (m % 16) :=
    fun m => hexValue?_hexDigit _ (Nat.mod_lt m (by decide))
  simp only [hexUnit?, digit, Option.bind_eq_bind, Option.bind_some, Option.pure_def,
    Option.some.injEq]
  omega

theorem spellsUnits_unitEscape {n : Nat} (small : n < 0x10000) {t : Text} {units : List Nat}
    (later : SpellsUnits t units) : SpellsUnits (unitEscape n ++ t) (n :: units) := by
  obtain ⟨a, b, c, d, digits, value⟩ := hexUnit?_hex small
  rw [unitEscape, digits]
  exact .number value later

/-- The numbers that a character is written by. -/
def units (c : Char) : List Nat :=
  if c.toNat < 0x10000 then [c.toNat]
  else [0xD800 + (c.toNat - 0x10000) / 0x400, 0xDC00 + (c.toNat - 0x10000) % 0x400]

theorem toNat_lt (c : Char) : c.toNat < 0x110000 := by
  rcases c.valid with low | ⟨-, high⟩
  · exact Nat.lt_trans low (by decide)
  · exact high

/-- No character is half of a pair. -/
theorem not_half (c : Char) : isHighHalf c.toNat = false ∧ isLowHalf c.toNat = false := by
  have valid : c.toNat < 0xD800 ∨ 0xDFFF < c.toNat ∧ c.toNat < 0x110000 := c.valid
  simp only [isHighHalf, isLowHalf, Bool.and_eq_false_iff, decide_eq_false_iff_not]
  omega

theorem spellsUnits_numberEscape (c : Char) {t : Text} {later : List Nat}
    (spelled : SpellsUnits t later) : SpellsUnits (numberEscape c ++ t) (units c ++ later) := by
  have bounded := toNat_lt c
  rw [numberEscape, units]
  split
  next small => exact spellsUnits_unitEscape small spelled
  next large =>
    rw [List.append_assoc]
    exact spellsUnits_unitEscape (by omega) (spellsUnits_unitEscape (by omega) spelled)

/-! ### Strings -/

/-- A short escape means the character that it is used for. -/
theorem shortEscape?_of_shortLetter? {c letter : Char} (short : shortLetter? c = some letter) :
    letter ≠ 'u' ∧ shortEscape? letter = some c ∧ units c = [c.toNat] := by
  unfold shortLetter? at short
  split at short
  · next mark =>
      obtain rfl := Option.some.inj short
      simp only [Bool.or_eq_true, decide_eq_true_eq] at mark
      rcases mark with rfl | rfl <;> decide
  · split at short
    · next same => subst same; obtain rfl := Option.some.inj short; decide
    · split at short
      · next same => subst same; obtain rfl := Option.some.inj short; decide
      · split at short
        · next same => subst same; obtain rfl := Option.some.inj short; decide
        · split at short
          · next same => subst same; obtain rfl := Option.some.inj short; decide
          · split at short
            · next same => subst same; obtain rfl := Option.some.inj short; decide
            · cases short

/-- A character of a string spells its numbers. -/
theorem spellsUnits_writeChar (c : Char) {t : Text} {later : List Nat}
    (spelled : SpellsUnits t later) : SpellsUnits (writeChar c ++ t) (units c ++ later) := by
  unfold writeChar
  split
  next letter short =>
    obtain ⟨notNumber, meant, single⟩ := shortEscape?_of_shortLetter? short
    rw [single]
    exact .escape notNumber meant spelled
  next ordinary =>
    split
    next printable =>
      simp only [Bool.and_eq_true, decide_eq_true_eq] at printable
      have notMark : c ≠ Text.doubleQuote ∧ c ≠ Text.backslash := by
        constructor <;> (rintro rfl; simp [shortLetter?] at ordinary)
      have single : units c = [c.toNat] := if_pos (by omega)
      rw [single]
      exact .plain notMark.1 notMark.2 (by omega) spelled
    next => exact spellsUnits_numberEscape c spelled

/-- A number that is not half of a pair with the next one stands for its own glyph. -/
theorem joinUnits_cons {n : Nat} {more : List Nat}
    (apart : ∀ low ∈ more.head?, (isHighHalf n && isLowHalf low) = false) :
    joinUnits (n :: more) = unitGlyph n :: joinUnits more := by
  cases more with
  | nil => rfl
  | cons low more =>
      have alone := apart low rfl
      rw [joinUnits, if_neg (by rw [alone]; decide)]

theorem unitGlyph_toNat (c : Char) : unitGlyph c.toNat = .char c := by
  have valid : c.toNat < 0xD800 ∨ 0xDFFF < c.toNat ∧ c.toNat < 0x110000 := c.valid
  rw [unitGlyph, dif_neg (by omega), Char.ofNat_toNat]

theorem unitGlyph_halfUnit (place : Fin 0x800) :
    unitGlyph (Glyph.halfUnit place) = .half place := by
  have inRange : 0xD800 ≤ Glyph.halfUnit place ∧ Glyph.halfUnit place < 0xE000 := by
    unfold Glyph.halfUnit
    omega
  have same : Glyph.halfUnit place - 0xD800 = place.val := by
    unfold Glyph.halfUnit
    omega
  rw [unitGlyph, dif_pos inRange]
  exact congrArg Glyph.half (Fin.ext same)

/-- The numbers of a character are put together to the character. -/
theorem joinUnits_units (c : Char) (more : List Nat) :
    joinUnits (units c ++ more) = .char c :: joinUnits more := by
  have bounded := toNat_lt c
  unfold units
  split
  next small =>
    have notHigh := (not_half c).1
    rw [List.singleton_append, joinUnits_cons (by simp [notHigh]), unitGlyph_toNat]
  next large =>
    have halves : isHighHalf (0xD800 + (c.toNat - 0x10000) / 0x400) = true ∧
        isLowHalf (0xDC00 + (c.toNat - 0x10000) % 0x400) = true := by
      simp only [isHighHalf, isLowHalf, Bool.and_eq_true, decide_eq_true_eq]
      omega
    have whole : 0x10000 + (0xD800 + (c.toNat - 0x10000) / 0x400 - 0xD800) * 0x400 +
        (0xDC00 + (c.toNat - 0x10000) % 0x400 - 0xDC00) = c.toNat := by omega
    simp only [List.cons_append, List.nil_append]
    rw [joinUnits, halves.1, halves.2, whole, Char.ofNat_toNat]
    rfl

/-- The numbers that a glyph is written by. -/
def glyphUnits : Glyph → List Nat
  | .char c => units c
  | .half place => [Glyph.halfUnit place]

theorem spellsUnits_writeGlyph (glyph : Glyph) {t : Text} {later : List Nat}
    (spelled : SpellsUnits t later) :
    SpellsUnits (writeGlyph glyph ++ t) (glyphUnits glyph ++ later) := by
  cases glyph with
  | char c => exact spellsUnits_writeChar c spelled
  | half place =>
      have small : Glyph.halfUnit place < 0x10000 := by
        unfold Glyph.halfUnit
        omega
      exact spellsUnits_unitEscape small spelled

/-- Only a second half is written by a number that is one. -/
theorem isLow_of_glyphUnits {glyph : Glyph} {low : Nat} (first : low ∈ (glyphUnits glyph).head?)
    (isLow : isLowHalf low = true) : glyph.isLow = true := by
  cases glyph with
  | char c =>
      have notLow := (not_half c).2
      simp only [glyphUnits, units] at first
      split at first
      next =>
        obtain rfl := Option.some.inj first
        rw [notLow] at isLow
        cases isLow
      next large =>
        obtain rfl := Option.some.inj first
        have bounded := toNat_lt c
        simp only [isLowHalf, Bool.and_eq_true, decide_eq_true_eq] at isLow
        omega
  | half place =>
      obtain rfl := Option.some.inj first
      simp only [isLowHalf, Bool.and_eq_true, decide_eq_true_eq] at isLow
      unfold Glyph.halfUnit at isLow
      simp only [Glyph.isLow, decide_eq_true_eq]
      omega

theorem isHigh_of_halfUnit {place : Fin 0x800}
    (isHigh : isHighHalf (Glyph.halfUnit place) = true) : (Glyph.half place).isHigh = true := by
  simp only [isHighHalf, Bool.and_eq_true, decide_eq_true_eq] at isHigh
  unfold Glyph.halfUnit at isHigh
  simp only [Glyph.isHigh, decide_eq_true_eq]
  omega

theorem glyphUnits_ne_nil (glyph : Glyph) : glyphUnits glyph ≠ [] := by
  cases glyph with
  | char c =>
      rw [glyphUnits, units]
      split <;> exact List.cons_ne_nil _ _
  | half place => exact List.cons_ne_nil _ _

/-- Glyphs among which no pair is left are put together from their numbers. -/
theorem joinUnits_glyphUnits {glyphs : List Glyph} (settled : Glyph.isSettled glyphs = true) :
    joinUnits (glyphs.flatMap glyphUnits) = glyphs := by
  induction glyphs with
  | nil => rfl
  | cons glyph rest inductionHypothesis =>
      have settledRest : Glyph.isSettled rest = true := by
        cases rest with
        | nil => rfl
        | cons next others =>
            rw [Glyph.isSettled, Bool.and_eq_true] at settled
            exact settled.2
      rw [List.flatMap_cons]
      cases glyph with
      | char c => rw [glyphUnits, joinUnits_units, inductionHypothesis settledRest]
      | half place =>
          -- A first half before a second one would have been put together with it.
          have apart : ∀ low ∈ (rest.flatMap glyphUnits).head?,
              (isHighHalf (Glyph.halfUnit place) && isLowHalf low) = false := by
            intro low isFirst
            cases rest with
            | nil => cases isFirst
            | cons next others =>
                rw [List.flatMap_cons, List.head?_append_of_ne_nil _ (glyphUnits_ne_nil next)]
                  at isFirst
                rw [Bool.eq_false_iff, Ne, Bool.and_eq_true]
                rintro ⟨isHigh, isLow⟩
                rw [Glyph.isSettled, isHigh_of_halfUnit isHigh,
                  isLow_of_glyphUnits isFirst isLow] at settled
                cases settled
          rw [glyphUnits, List.singleton_append, joinUnits_cons apart, unitGlyph_halfUnit,
            inductionHypothesis settledRest]

theorem isSettled_chars (t : Text) : Glyph.isSettled (t.map .char) = true := by
  induction t with
  | nil => rfl
  | cons c t inductionHypothesis =>
      cases t with
      | nil => rfl
      | cons d t => exact inductionHypothesis

theorem isSettled_glyphs (string : Key) : Glyph.isSettled string.glyphs = true := by
  cases string with
  | text t => exact isSettled_chars t
  | torn t => exact t.isSettled

/-- A written string spells the string that it was written for. -/
theorem spellsString_writeString (string : Key) : SpellsString (writeString string) string := by
  have spelled : SpellsUnits (string.glyphs.flatMap writeGlyph)
      (string.glyphs.flatMap glyphUnits) := by
    induction string.glyphs with
    | nil => exact .nil
    | cons glyph rest inductionHypothesis =>
        exact spellsUnits_writeGlyph glyph inductionHypothesis
  have joined : stringOf (string.glyphs.flatMap glyphUnits) = string := by
    refine Key.glyphs_injective ?_
    rw [stringOf, Key.glyphs_ofGlyphs, joinUnits_glyphUnits (isSettled_glyphs string)]
  have quoted := SpellsString.quoted spelled
  rwa [joined] at quoted

/-! ### Whole numbers -/

theorem isDigit_digitChar : ∀ n < 10, isDigit (Text.digitChar n) = true := by
  decide

/-- A numeral consists of the ten digits of numbers. -/
theorem isDigit_of_mem_decimal (n : Nat) : ∀ c ∈ Text.decimal n, isDigit c = true := by
  fun_induction Text.decimal n with
  | case1 n small =>
      intro c member
      rw [List.mem_singleton.mp member]
      exact isDigit_digitChar n small
  | case2 n _ inductionHypothesis =>
      intro c member
      rcases List.mem_append.mp member with earlier | last
      · exact inductionHypothesis c earlier
      · rw [List.mem_singleton.mp last]
        exact isDigit_digitChar _ (Nat.mod_lt n (by decide))

/-- Only the numeral of zero begins with a zero. -/
theorem head?_decimal {n : Nat} (positive : 0 < n) : (Text.decimal n).head? ≠ some '0' := by
  fun_induction Text.decimal n with
  | case1 n small =>
      have others : ∀ m < 10, 0 < m → [Text.digitChar m].head? ≠ some '0' := by decide
      exact others n small positive
  | case2 n large inductionHypothesis =>
      rw [List.head?_append_of_ne_nil _ (Text.decimal_ne_nil _)]
      exact inductionHypothesis (by omega)

theorem isWhole_decimal (n : Nat) : IsWhole (Text.decimal n) := by
  rcases Nat.eq_zero_or_pos n with rfl | positive
  · rw [Text.decimal]
    exact .inl rfl
  · exact .inr ⟨⟨Text.decimal_ne_nil n, isDigit_of_mem_decimal n⟩, head?_decimal positive⟩

/-- A whole number is written with as many digits as are read. -/
def IsReadable (n : Int) : Prop := (Text.decimal n.natAbs).length ≤ digitLimit

/-- The numeral of a whole number. -/
def wholeNumeral (n : Int) : Numeral := ⟨decide (n < 0), Text.decimal n.natAbs, none, none⟩

theorem spellsNumeral_signedDecimal (n : Int) :
    SpellsNumeral (Text.signedDecimal n) (wholeNumeral n) := by
  have parts := SpellsNumeral.parts (decide (n < 0)) (isWhole_decimal n.natAbs) .none .none
  have same : Text.signedDecimal n =
      minus (decide (n < 0)) ++ (Text.decimal n.natAbs ++ ([] ++ [])) := by
    rw [Text.signedDecimal, minus, List.append_nil, List.append_nil]
    split
    next negative => simp [negative]
    next natural => simp [natural]
  rwa [same]

theorem numeralValue_wholeNumeral {n : Int} (readable : IsReadable n) :
    (wholeNumeral n).value = .ok (.int n) := by
  have noMore : ¬ digitLimit < (Text.decimal n.natAbs).length := Nat.not_lt.mpr readable
  have signed : (if n < 0 then -(n.natAbs : Int) else n.natAbs) = n := by
    split <;> omega
  unfold Numeral.value wholeNumeral
  simp only [Option.isNone_none, Bool.and_self, if_true, noMore, if_false,
    Text.numeralValue_decimal, decide_eq_true_eq, signed]

end CueWatch.Settings.Json
