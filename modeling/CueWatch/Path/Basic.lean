import CueWatch.Text.Basic

/-!
Contract: the place of an entry in a file tree, as the list of names from the root.

Owns:
- `Path`, its parent, its written form, and the relation of being at or above another path.

Does not own: written paths with `.`, `..` and links (`Path.Spelling`, `FileTree.Resolve`).
-/

namespace CueWatch

/-- The names from the root down to an entry; the root itself is the empty list. -/
abbrev Path := List Text

namespace Path

/-- The directory that holds an entry; the root holds itself. -/
def parent (path : Path) : Path := path.dropLast

/-- The path as written from the root. -/
def text (path : Path) : Text := '/' :: Text.join ['/'] path

/-- Whether the first path is the second or one of its ancestors. -/
def isAtOrAbove (upper lower : Path) : Bool := upper.isPrefixOf lower

end Path

end CueWatch
