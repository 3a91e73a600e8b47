import CueWatch.Keyed
import CueWatch.Path.Basic
import CueWatch.Text.Lines
import CueWatch.Text.Utf8

/-!
Contract: a tree of directories, files and links.

Owns:
- `Content`, what a file holds: text, or bytes that may be no text;
- `FileTree`, a dictionary from paths to entries whose root is always a directory;
- look-up, placing, removal with everything below, and the names in a directory.

Does not own: written paths and following links (`FileTree.Resolve`), lists of a whole tree
(`FileTree.Listing`), and the checks that a parent exists (`Host.Files`).
-/

namespace CueWatch

inductive Content where
  | text (t : Text)
  | bytes (bs : List UInt8)
deriving DecidableEq, Repr

namespace Content

/-- The text of a file, read strictly and without touching its line ends. -/
def decode : Content → Except Text.Utf8.Fault Text
  | .text t => .ok t
  | .bytes bs => Text.Utf8.decode (bs.map UInt8.toNat)

/-- The text of a file as a reader of text sees it: every line ends with a newline. -/
def read (content : Content) : Except Text.Utf8.Fault Text :=
  content.decode.map Text.universalNewlines

/-- The text of a file with undecodable bytes shown as escapes. -/
def shown : Content → Text
  | .text t => t
  | .bytes bs => Text.Utf8.decodeShowing (bs.map UInt8.toNat)

/-- The content with text after it. -/
def extend (addition : Text) : Content → Content
  | .text t => .text (t ++ addition)
  | .bytes bs => .bytes (bs ++ Text.Utf8.encode addition)

end Content

inductive Entry where
  | directory
  | file (content : Content)
  | link (target : Text)
deriving DecidableEq, Repr

/-- A file tree: the entries below the root, under their paths. -/
structure FileTree where
  entries : Keyed Path Entry
deriving DecidableEq, Repr

namespace FileTree

/-- The tree that holds the root only. -/
def empty : FileTree := ⟨[]⟩

/-- What stands at a path; the root is always a directory. -/
def get? (tree : FileTree) (path : Path) : Option Entry :=
  if path = [] then some .directory else Keyed.find? path tree.entries

/-- Places an entry at a path, in place of what stands there. -/
def place (tree : FileTree) (path : Path) (entry : Entry) : FileTree :=
  ⟨Keyed.put path entry tree.entries⟩

/-- Removes what stands at a path and everything below it. -/
def prune (tree : FileTree) (path : Path) : FileTree :=
  ⟨tree.entries.filter fun pair => !path.isAtOrAbove pair.1⟩

def children (tree : FileTree) (path : Path) : List Text :=
  tree.entries.filterMap fun pair =>
    if pair.1 ≠ [] && pair.1.parent = path then pair.1.getLast? else none

/-- Makes a directory at `base` followed by each initial part of `names` that holds nothing yet. -/
def makeBelow (tree : FileTree) (base : Path) : List Text → FileTree
  | [] => tree
  | name :: rest =>
      let here := base ++ [name]
      let made := if (tree.get? here).isSome then tree else tree.place here .directory
      made.makeBelow here rest

/-- Makes a directory at every path from the root down to `path` that holds nothing yet. -/
def makeAll (tree : FileTree) (path : Path) : FileTree := tree.makeBelow [] path

end FileTree

end CueWatch
