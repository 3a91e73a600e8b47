import CueWatch.Text.Basic

/-!
Contract: paths as they are written, and what can be said of them without a file system.

Owns:
- `directory`, `name`, `append` and `above`, which cut and put together written paths;
- `normal` and `absolute`, which resolve `.` and `..` by the letter;
- `Pathname`, a written path without repeated slashes and `.` components, with its parent, its
  children and the suffix of its name.

Does not own: links, and whether anything exists at a path (`FileTree`).
-/

namespace CueWatch

namespace Spelling

def isAbsolute (path : Text) : Bool := path.head? == some '/'

/-- The part before the last slash, without the slashes at its end unless it is all slashes. -/
def directory (path : Text) : Text :=
  let head := Text.dropEndWhile (· ≠ '/') path
  if head.all (· == '/') then head else Text.dropEndWhile (· == '/') head

/-- The part after the last slash. -/
def name (path : Text) : Text := (path.reverse.takeWhile (· ≠ '/')).reverse

/-- The path without the slashes at its end; a path of slashes only keeps them. -/
def withoutEndSlashes (path : Text) : Text :=
  let trimmed := Text.dropEndWhile (· == '/') path
  if trimmed.isEmpty then path else trimmed

def endsWithSlash (path : Text) : Bool := path.getLast? == some '/'

/-- The second path seen from the first; an absolute one stands for itself. -/
def append (base path : Text) : Text :=
  if isAbsolute path then path
  else if base.isEmpty || endsWithSlash base then base ++ path
  else base ++ '/' :: path

/-- One level above a path that has no links in it. Above a path of `..` only, another one is
written. -/
def above (path : Text) : Text :=
  if path.isEmpty then ['.', '.']
  else if name path = ['.', '.'] then append (append (directory path) ['.', '.']) ['.', '.']
  else directory path

/-- The slashes that stand for the root: exactly two are kept, any other number is one. -/
def root (path : Text) : Text :=
  match (path.takeWhile (· == '/')).length with
  | 0 => []
  | 2 => ['/', '/']
  | _ => ['/']

/-- Adds a component to those already resolved, last one first. -/
def resolveComponent (rooted : Bool) (resolved : List Text) (component : Text) : List Text :=
  if component = [] || component = ['.'] then resolved
  else if component ≠ ['.', '.'] then component :: resolved
  else
    match resolved with
    | [] => if rooted then [] else [component]
    | last :: earlier => if last = ['.', '.'] then component :: resolved else earlier

/-- The path with `.`, `..` and repeated slashes resolved by the letter. -/
def normal (path : Text) : Text :=
  let start := root path
  let components :=
    ((Text.splitOn '/' path).foldl (resolveComponent (!start.isEmpty)) []).reverse
  let written := start ++ Text.join ['/'] components
  if written.isEmpty then ['.'] else written

/-- The normal form of a path seen from a directory. -/
def absolute (workingDirectory path : Text) : Text := normal (append workingDirectory path)

theorem directory_isPrefix (path : Text) : directory path <+: path := by
  have head := Text.dropEndWhile_isPrefix (fun c => decide (c ≠ '/')) path
  simp only [directory]
  split
  · exact head
  · exact (Text.dropEndWhile_isPrefix _ _).trans head

/-- A directory's own directory is shorter, unless it is the same. -/
theorem length_directory_lt {path : Text} (moved : directory path ≠ path) :
    (directory path).length < path.length := by
  have start := directory_isPrefix path
  have bounded := start.length_le
  rcases Nat.lt_or_ge (directory path).length path.length with shorter | same
  · exact shorter
  · exact absurd (start.eq_of_length (Nat.le_antisymm bounded same)) moved

/-- The part before the last slash is shorter than a path that has something after it. -/
theorem length_directory_lt_of_name {path : Text} (named : name path ≠ []) :
    (directory path).length < path.length := by
  have trimmed : (directory path).length ≤ (Text.dropEndWhile (fun c => c ≠ '/') path).length := by
    simp only [directory]
    split
    · exact Nat.le_refl _
    · exact (Text.dropEndWhile_isPrefix _ _).length_le
  have whole := congrArg List.length
    (List.takeWhile_append_dropWhile (p := fun c : Char => decide (c ≠ '/')) (l := path.reverse))
  have positive : 0 < (name path).length := List.length_pos_iff.mpr named
  simp only [name, List.length_reverse] at positive
  simp only [Text.dropEndWhile, List.length_reverse] at trimmed
  rw [List.length_append, List.length_reverse] at whole
  omega

end Spelling

/-- A written path without repeated slashes and without `.` components. -/
structure Pathname where
  root : Text
  parts : List Text
deriving DecidableEq, Repr

namespace Pathname

/-- Whether a component says nothing. -/
def isIdle (component : Text) : Bool := component = [] || component = ['.']

def ofText (path : Text) : Pathname :=
  ⟨Spelling.root path, (Text.splitOn '/' path).filter fun part => !isIdle part⟩

/-- How the path is written; the empty one is a dot. -/
def text (path : Pathname) : Text :=
  if path.root.isEmpty && path.parts.isEmpty then ['.']
  else path.root ++ Text.join ['/'] path.parts

/-- The path without its last part; a path without parts is its own parent. -/
def parent (path : Pathname) : Pathname := { path with parts := path.parts.dropLast }

/-- The path of an entry below. -/
def child (path : Pathname) (name : Text) : Pathname := { path with parts := path.parts ++ [name] }

/-- The suffix of a name: from its last dot on, unless that is its first or last character. -/
def suffixOfName (name : Text) : Text :=
  let after := name.reverse.takeWhile (· ≠ '.')
  if after.isEmpty || name.length ≤ after.length + 1 then [] else '.' :: after.reverse

def suffix (path : Pathname) : Text :=
  match path.parts.getLast? with
  | some name => suffixOfName name
  | none => []

end Pathname

end CueWatch
