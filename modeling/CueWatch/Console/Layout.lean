import CueWatch.Text.Blank

/-!
Contract: a text laid out in lines of a width.

Characters take different numbers of columns, which are given by a table. Tabs reach to the next
multiple of eight columns. A word stays whole if it fits a line; it goes to the next line if it does
not fit the one that has been begun.

Owns:
- `expandTabs`, for one line;
- `linesOf`, which breaks a line between words and cuts words that no line has room for;
- `fitted`, which takes the columns off a line that are beyond the width;
- `layOut` and `unbroken`, the whole text with and without the breaks.

Does not own: what is shown of a text before it is laid out (`Console`). Where a line is cut right
after characters that take no column, they stay.
-/

namespace CueWatch.Console

/-- The columns that a text takes. -/
def columns (cells : Char → Nat) (t : Text) : Nat := t.foldr (fun c rest => cells c + rest) 0

def tabWidth : Nat := 8

/-- A line with blanks in place of tabs, from a column on. -/
def expandTabsFrom (cells : Char → Nat) (column : Nat) : Text → Text
  | [] => []
  | c :: rest =>
      if c = '\t' then
        let width := tabWidth - column % tabWidth
        List.replicate width ' ' ++ expandTabsFrom cells (column + width) rest
      else c :: expandTabsFrom cells (column + cells c) rest

/-- A line with blanks in place of tabs. -/
def expandTabs (cells : Char → Nat) (line : Text) : Text := expandTabsFrom cells 0 line

/-- Whether a line can be broken between two characters: where a word begins after a blank. -/
def breaksBetween (a b : Char) : Bool := Text.isBlank a && !Text.isBlank b

/-- The words of a line, each with the blanks after it and the first with those before it. -/
def wordsOf (line : Text) : List Text :=
  match line.splitBy fun a b => !breaksBetween a b with
  | blanks :: word :: rest =>
      if blanks.all Text.isBlank then (blanks ++ word) :: rest else blanks :: word :: rest
  | pieces => pieces

/-- Cuts a text into pieces that fit the width: those that fill a line, and the last one. A piece may
have been begun. -/
def cutFrom (cells : Char → Nat) (width : Nat) (piece : Text) : Text → List Text × Text
  | [] => ([], piece)
  | c :: rest =>
      if columns cells piece + cells c ≤ width then cutFrom cells width (piece ++ [c]) rest
      else
        let cut := cutFrom cells width [c] rest
        (piece :: cut.1, cut.2)

/-- The lines before those of a word that begins a new one: none at the start of a text, where a
character that fits no line does not leave an empty one either. -/
def linesBefore (line : Text) (full : List Text) : List Text :=
  if line.isEmpty then full.dropWhile List.isEmpty else line :: full

/-- Breaks words into lines, of which one may have been begun. -/
def linesOf (cells : Char → Nat) (width : Nat) (line : Text) : List Text → List Text
  | [] => [line]
  | word :: rest =>
      let wide := columns cells (Text.trimEnd word)
      if columns cells line + wide ≤ width then linesOf cells width (line ++ word) rest
      else if width < wide then
        let cut := cutFrom cells width [] word
        linesBefore line cut.1 ++ linesOf cells width cut.2 rest
      else line :: linesOf cells width word rest

/-- A line without the blanks at its end that are more than a number of characters. -/
def dropBeyond (width : Nat) (line : Text) : Text :=
  line.take (max (Text.trimEnd line).length width)

/-- The start of a line that fits the room; where half of a character would fit, blanks stand. -/
def crop (cells : Char → Nat) (room : Nat) : Text → Text
  | [] => []
  | c :: rest =>
      if cells c ≤ room then c :: crop cells (room - cells c) rest
      else List.replicate room ' '

/-- A line without what is beyond the width. -/
def fitted (cells : Char → Nat) (width : Nat) (line : Text) : Text :=
  crop cells width (dropBeyond width line)

/-- The lines that one line becomes. -/
def brokenLines (cells : Char → Nat) (width : Nat) (line : Text) : List Text :=
  (linesOf cells width [] (wordsOf (expandTabs cells line))).map (fitted cells width)

/-- A text broken into lines of the width. -/
def layOut (cells : Char → Nat) (width : Nat) (t : Text) : Text :=
  Text.join "\n" ((Text.splitOn '\n' t).flatMap (brokenLines cells width))

/-- A text whose lines stay as they are broken. -/
def unbroken (cells : Char → Nat) (width : Nat) (t : Text) : Text :=
  Text.join "\n" ((Text.splitOn '\n' t).map fun line => dropBeyond width (expandTabs cells line))

end CueWatch.Console
