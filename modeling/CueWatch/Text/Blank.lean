import CueWatch.Text.Basic

/-!
Contract: the characters that count as blank, and trimming and word splitting by them.

Owns:
- `isBlank`, the white space class used for trimming lines and splitting words;
- `trim`, `trimEnd` and `words`.

Does not own: the line terminators (`Text.Lines`) and the blanks of a data format.
-/

namespace CueWatch.Text

/-- White space: the ASCII blanks and separators, and the Unicode spaces and line separators. -/
def isBlank (c : Char) : Bool :=
  let n := c.toNat
  (9 ≤ n && n ≤ 13) || (0x1C ≤ n && n ≤ 0x20) || n == 0x85 || n == 0xA0 || n == 0x1680 ||
    (0x2000 ≤ n && n ≤ 0x200A) || n == 0x2028 || n == 0x2029 || n == 0x202F || n == 0x205F ||
    n == 0x3000

/-- The text without the blanks at its start. -/
def trimStart (t : Text) : Text := t.dropWhile isBlank

/-- The text without the blanks at its end. -/
def trimEnd (t : Text) : Text := dropEndWhile isBlank t

/-- The text without the blanks at both ends. -/
def trim (t : Text) : Text := trimEnd (trimStart t)

/-- Splits off the words of a text whose unfinished first word is `word`, in reverse. -/
def wordsFrom (word : Text) : Text → List Text
  | [] => if word.isEmpty then [] else [word.reverse]
  | c :: rest =>
      if isBlank c then
        if word.isEmpty then wordsFrom [] rest else word.reverse :: wordsFrom [] rest
      else wordsFrom (c :: word) rest

/-- The maximal runs of characters that are not blank. -/
def words (t : Text) : List Text := wordsFrom [] t

/-- A text is blank when it is empty after trimming. -/
def isBlankText (t : Text) : Bool := (trim t).isEmpty

end CueWatch.Text
