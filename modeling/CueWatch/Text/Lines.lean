import CueWatch.Text.Basic

/-!
Contract: the three ways in which text is cut into lines.

Owns:
- `reportLines`: a line of a report ends at a newline, together with one carriage return
  directly before it; the last line has no end;
- `sourceLines`: a line of source ends at any line break, and no empty line follows the last
  break;
- `universalNewlines`: every carriage return, alone or before a newline, becomes a newline.

Does not own: trimming.
-/

namespace CueWatch.Text

/-- The lines of a report, terminators removed; an empty text is one empty line. -/
def reportLines : Text → List Text
  | [] => [[]]
  | [c] => if c = '\n' then [[], []] else [[c]]
  | c :: d :: rest =>
      if c = '\r' && d = '\n' then [] :: reportLines rest
      else if c = '\n' then [] :: reportLines (d :: rest)
      else extendHead c (reportLines (d :: rest))

/-- The characters that end a line of source. -/
def isLineBreak (c : Char) : Bool :=
  let n := c.toNat
  (0x0A ≤ n && n ≤ 0x0D) || (0x1C ≤ n && n ≤ 0x1E) || n == 0x85 || n == 0x2028 || n == 0x2029

/-- The lines of source text, terminators removed; a carriage return and the newline after it
are one terminator. -/
def sourceLines : Text → List Text
  | [] => []
  | [c] => if isLineBreak c then [[]] else [[c]]
  | c :: d :: rest =>
      if c = '\r' && d = '\n' then [] :: sourceLines rest
      else if isLineBreak c then [] :: sourceLines (d :: rest)
      else extendHead c (sourceLines (d :: rest))

/-- The text with every line end written as a newline. -/
def universalNewlines : Text → Text
  | [] => []
  | [c] => if c = '\r' then ['\n'] else [c]
  | c :: d :: rest =>
      if c = '\r' then
        if d = '\n' then '\n' :: universalNewlines rest else '\n' :: universalNewlines (d :: rest)
      else c :: universalNewlines (d :: rest)

end CueWatch.Text
