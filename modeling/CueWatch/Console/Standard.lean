import CueWatch.Console.Basic
import CueWatch.Console.Markup

/-!
Contract: a console with tables of its own, on which programs can be run.

Owns:
- `standard`, the console of a width on which every character takes one column and no code has a
  picture, and which reads marks as `Markup.plain` does.

Does not own: characters that take two columns or, combined with others, none. What is proved of
consoles does not rest on these tables.
-/

namespace CueWatch.Console

/-- The columns that a character takes: a control character takes none. -/
def plainCells (c : Char) : Nat :=
  if c.toNat < 0x20 || (0x7F ≤ c.toNat && c.toNat < 0xA0) then 0 else 1

/-- The console of a width. -/
def standard (width : Nat) : Console where
  width := width
  cells := plainCells
  picture := fun _ => none
  reading := Markup.plain

end CueWatch.Console
