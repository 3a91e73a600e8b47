import CueWatch.Failure

/-!
Contract: the strings that settings hold.

Most strings are texts. A string that is given by escapes can also have half of a pair of units in
it that stands alone, and then it is no text. Such a string is torn. It is kept with its halves, so
that strings that differ stay different.

Owns:
- `Glyph`, a character or half of a pair, and `Torn`, the strings that are no texts;
- `Key`, a string of either kind, as the keys of objects are;
- how strings are shown in messages, where a half stands as its escape, and the failure to encode a
  torn string for the system.

Does not own: how strings are read and written (`Settings.Json`), and the bytes of file names that
are no texts.
-/

namespace CueWatch.Settings

/-- A character, or half of a pair of units that stands alone, by its place among all halves. -/
inductive Glyph where
  | char (c : Char)
  | half (place : Fin 0x800)
deriving DecidableEq, Repr

namespace Glyph

/-- Whether a glyph is the first half of a pair. -/
def isHigh : Glyph → Bool
  | .char _ => false
  | .half place => place.val < 0x400

/-- Whether a glyph is the second half of a pair. -/
def isLow : Glyph → Bool
  | .char _ => false
  | .half place => 0x400 ≤ place.val

/-- The number of a half. -/
def halfUnit (place : Fin 0x800) : Nat := 0xD800 + place.val

/-- A glyph in a message; half of a pair stands as its escape. -/
def shown : Glyph → Text
  | .char c => [c]
  | .half place => Text.backslash :: 'u' :: Text.hex 4 (halfUnit place)

/-- The text of glyphs that are all characters. -/
def text? : List Glyph → Option Text
  | [] => some []
  | .char c :: rest => (text? rest).map (c :: ·)
  | .half _ :: _ => none

/-- Whether no two neighbours are the halves of one pair. -/
def isSettled : List Glyph → Bool
  | a :: b :: rest => !(a.isHigh && b.isLow) && isSettled (b :: rest)
  | _ => true

theorem text?_chars (t : Text) : text? (t.map .char) = some t := by
  induction t with
  | nil => rfl
  | cons c t inductionHypothesis => simp [text?, inductionHypothesis]

theorem eq_chars_of_text? {glyphs : List Glyph} {t : Text} (whole : text? glyphs = some t) :
    glyphs = t.map .char := by
  induction glyphs generalizing t with
  | nil =>
      obtain rfl := Option.some.inj whole
      rfl
  | cons glyph rest inductionHypothesis =>
      cases glyph with
      | char c =>
          obtain ⟨later, isLater, rfl⟩ := Option.map_eq_some_iff.mp whole
          rw [inductionHypothesis isLater]
          rfl
      | half place => cases whole

end Glyph

/-- A string that is no text: there is half of a pair in it, and nowhere both halves of one. -/
structure Torn where
  glyphs : List Glyph
  isTorn : Glyph.text? glyphs = none
  isSettled : Glyph.isSettled glyphs = true
deriving DecidableEq, Repr

namespace Torn

/-- Half of a pair as a string. -/
def ofHalf (place : Fin 0x800) : Torn := ⟨[.half place], rfl, rfl⟩

def shown (torn : Torn) : Text := torn.glyphs.flatMap Glyph.shown

/-- A torn string in quotes. -/
def quoted (torn : Torn) : Text :=
  let mark := Text.quoteMark (torn.glyphs.flatMap fun
    | .char c => [c]
    | .half _ => [])
  mark :: (torn.glyphs.flatMap fun
    | .char c => Text.quotedChar mark c
    | half => half.shown) ++ [mark]

def isHalf : Glyph → Bool
  | .char _ => false
  | .half _ => true

/-- The failure to encode a torn string: told are the first halves in it that stand together. -/
def unencodable (torn : Torn) : Failure :=
  let first := torn.glyphs.findIdx isHalf
  let halves := (torn.glyphs.drop first).takeWhile isHalf
  .unencodable ((halves.head?.map Glyph.shown).getD []) first (first + halves.length - 1)

end Torn

/-- A string, as the keys of objects are. -/
inductive Key where
  | text (t : Text)
  | torn (t : Torn)
deriving DecidableEq, Repr

instance : Coe Text Key := ⟨Key.text⟩

namespace Key

/-- The string of glyphs. -/
def ofGlyphs (glyphs : List Glyph) (settled : Glyph.isSettled glyphs = true) : Key :=
  match torn : Glyph.text? glyphs with
  | some t => .text t
  | none => .torn ⟨glyphs, torn, settled⟩

def glyphs : Key → List Glyph
  | .text t => t.map .char
  | .torn t => t.glyphs

/-- A string in a message. -/
def shown : Key → Text
  | .text t => t
  | .torn t => t.shown

/-- A string in quotes. -/
def quoted : Key → Text
  | .text t => Text.quoted t
  | .torn t => t.quoted

/-- A string is made of its glyphs, whether it is torn or not. -/
@[simp]
theorem glyphs_ofGlyphs (row : List Glyph) (settled : Glyph.isSettled row = true) :
    (ofGlyphs row settled).glyphs = row := by
  unfold ofGlyphs
  split
  next whole => exact (Glyph.eq_chars_of_text? whole).symm
  next => rfl

/-- Strings of the same glyphs are the same. -/
theorem glyphs_injective {key other : Key} (same : key.glyphs = other.glyphs) : key = other := by
  cases key with
  | text t =>
      cases other with
      | text u =>
          have whole := Glyph.text?_chars t
          rw [show t.map Glyph.char = u.map Glyph.char from same, Glyph.text?_chars] at whole
          rw [Option.some.inj whole]
      | torn u =>
          have whole := Glyph.text?_chars t
          rw [show t.map Glyph.char = u.glyphs from same, u.isTorn] at whole
          cases whole
  | torn t =>
      cases other with
      | text u =>
          have whole := Glyph.text?_chars u
          rw [show u.map Glyph.char = t.glyphs from same.symm, t.isTorn] at whole
          cases whole
      | torn u =>
          obtain ⟨glyphs, _, _⟩ := t
          obtain ⟨others, _, _⟩ := u
          obtain rfl : glyphs = others := same
          rfl

end Key

end CueWatch.Settings
