import CueWatch.Console.Code
import CueWatch.Console.Layout
import CueWatch.Failure
import CueWatch.Text.Control

/-!
Contract: the console that texts are printed on.

The console is not part of the program. What it does to every text is told here. Its tables, and how
it reads marked text, are given with it.

Owns:
- `Console`, with its width and its tables;
- `plain`, `unwrapped` and `marked`, what is printed of a text, of a text that is not to be broken,
  and of a text with marks for its style.

Does not own: colours, and the tables of any one console (`Console.Standard`).
-/

namespace CueWatch

/-- A console: how many columns a line has and a character takes, the pictures that stand for codes,
and what marked text shows, which fails if the marks cannot be read. -/
structure Console where
  width : Nat
  cells : Char → Nat
  picture : Text → Option Text
  reading : Text → Except Failure Text

namespace Console

/-- What is printed of a text. -/
def plain (console : Console) (t : Text) : Text :=
  layOut console.cells console.width (Text.withoutControls (replaceCodes console.picture t))

/-- What is printed of a text that is put together from parts and not to be broken. -/
def unwrapped (console : Console) (t : Text) : Text :=
  unbroken console.cells console.width (Text.withoutControls t)

/-- What is printed of marked text. -/
def marked (console : Console) (t : Text) : Except Failure Text :=
  (console.reading t).map (layOut console.cells console.width)

end Console

end CueWatch
