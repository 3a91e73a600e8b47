import CueWatch.FileTree.Resolve

/-!
Contract: the contents of a tree as a list of written paths.

Owns:
- `precedes`, the order of the characters;
- `below`, everything below a path, where what leads to a directory ends with a slash.

Does not own: what stands below the directories that links lead to; it is listed at its own place.
-/

namespace CueWatch.FileTree

/-- Whether one text comes before another, character by character. -/
def precedes (left right : Text) : Bool :=
  match left, right with
  | [], _ => true
  | _ :: _, [] => false
  | a :: left, b :: right => if a = b then precedes left right else a.toNat < b.toNat

/-- Whether an entry is a directory or a link that leads to one. -/
def leadsToDirectory (tree : FileTree) (path : Path) : Entry → Bool
  | .directory => true
  | .file _ => false
  | .link _ =>
      match tree.find Spot.root true path.text with
      | .ok (_, .directory) => true
      | _ => false

/-- How an entry is written: what leads to a directory ends with a slash. -/
def listed (tree : FileTree) (pair : Path × Entry) : Text :=
  if tree.leadsToDirectory pair.1 pair.2 then pair.1.text ++ ['/'] else pair.1.text

/-- Everything below a path, as written, in the order of the characters. -/
def below (tree : FileTree) (path : Path) : List Text :=
  ((tree.entries.filter fun pair => path.isAtOrAbove pair.1 && pair.1 ≠ path).map
    tree.listed).mergeSort precedes

end CueWatch.FileTree
