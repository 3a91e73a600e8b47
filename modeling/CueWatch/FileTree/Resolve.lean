import CueWatch.Failure
import CueWatch.FileTree.Basic
import CueWatch.Path.Spelling

/-!
Contract: what a written path leads to in a tree with links.

Owns:
- `Spot`, a place in the tree or in a directory that has been removed from it while it was in use;
- `walk`, the way of an operation to the entry it works on, which fails at missing directories,
  at files used as directories, at names that are too long and after too many links;
- the entry found for a path, with and without following a final link;
- `resolveFrom`, the spelling of a path without links, which fails neither at missing parts, which
  it keeps, nor at a circle of links, which it leaves as it is written.

Does not own: the working directory a relative path starts from.
-/

namespace CueWatch.FileTree

/-- A place of the tree, or a directory that was removed: `lost` levels of it are gone, and the
directory above them is at `path`. -/
structure Spot where
  path : Path
  lost : Nat
deriving DecidableEq, Repr

def Spot.at (path : Path) : Spot := ⟨path, 0⟩

def Spot.root : Spot := Spot.at []

/-- The same directory after everything at and below a path has been removed. -/
def Spot.without (removed : Path) (spot : Spot) : Spot :=
  if removed.isAtOrAbove spot.path then
    ⟨removed.parent, spot.lost + (spot.path.length - removed.parent.length)⟩
  else spot

/-- What stands at a spot; what is lost is a directory without entries. -/
def entryAt? (tree : FileTree) (spot : Spot) : Option Entry :=
  if spot.lost = 0 then tree.get? spot.path else some .directory

/-- Where a walk ends: at an entry, or at a free place in an existing directory. A free place whose
name is followed by slashes is asked for as a directory. -/
inductive Place where
  | taken (spot : Spot)
  | free (path : Path) (asDirectory : Bool)
deriving DecidableEq, Repr

/-- The most links that one walk follows. -/
def linkLimit : Nat := 40

/-- The most bytes of a name. -/
def nameLimit : Nat := 255

/-- The most bytes of a written path. -/
def pathLimit : Nat := 4095

def null : Char := Char.ofNat 0

/-- The place where the components of a link's target are counted from. -/
def linkBase (here : Path) (target : Text) : Path :=
  if Spelling.isAbsolute target then [] else here

/-- Follows components from a place up to the first link to be followed, whose target and what
comes after it are left to `follow`. The last component's link is followed only if asked for. -/
def walkWith (tree : FileTree) (followLast : Bool)
    (follow : Path → List Text → Except SystemError Place) (here : Path) :
    List Text → Except SystemError Place
  | [] => .ok (.taken (Spot.at here))
  | component :: rest =>
      if tree.get? here ≠ some .directory then .error .notDirectory
      else if Pathname.isIdle component then walkWith tree followLast follow here rest
      else if component = ['.', '.'] then walkWith tree followLast follow here.parent rest
      else if nameLimit < Text.Utf8.size component then .error .nameTooLong
      else
        let next := here ++ [component]
        match tree.get? next with
        | none =>
            if rest.all List.isEmpty then .ok (.free next (!rest.isEmpty)) else .error .noEntry
        | some (.link target) =>
            if rest.isEmpty && !followLast then .ok (.taken (Spot.at next))
            else follow (linkBase here target) (Text.splitOn '/' target ++ rest)
        | some _ => walkWith tree followLast follow next rest

/-- Follows components from a place through a bounded number of links. -/
def walkFrom (tree : FileTree) (followLast : Bool) :
    Nat → Path → List Text → Except SystemError Place
  | 0 => tree.walkWith followLast fun _ _ => .error .tooManyLinks
  | linksLeft + 1 => tree.walkWith followLast (tree.walkFrom followLast linksLeft)

/-- Follows components from a spot. In what is lost there are no entries, and the way up leads back
to the tree. -/
def walkUp (tree : FileTree) (followLast : Bool) (path : Path) (lost : Nat) :
    List Text → Except SystemError Place
  | [] => .ok (.taken ⟨path, lost⟩)
  | component :: rest =>
      match lost with
      | 0 => walkFrom tree followLast linkLimit path (component :: rest)
      | levels + 1 =>
          if Pathname.isIdle component then walkUp tree followLast path (levels + 1) rest
          else if component = ['.', '.'] then walkUp tree followLast path levels rest
          else .error .noEntry

/-- Follows a written path from a working directory; the empty path leads nowhere. -/
def walk (tree : FileTree) (workingDirectory : Spot) (followLast : Bool) (path : Text) :
    Except SystemError Place :=
  if path.isEmpty then .error .noEntry
  else if pathLimit < Text.Utf8.size path then .error .nameTooLong
  else
    let start := if Spelling.isAbsolute path then Spot.root else workingDirectory
    walkUp tree followLast start.path start.lost (Text.splitOn '/' path)

def find (tree : FileTree) (workingDirectory : Spot) (followLast : Bool) (path : Text) :
    Except SystemError (Spot × Entry) :=
  match walk tree workingDirectory followLast path with
  | .error error => .error error
  | .ok (.free _ _) => .error .noEntry
  | .ok (.taken spot) =>
      match tree.entryAt? spot with
      | some entry => .ok (spot, entry)
      | none => .error .noEntry

def linkAt? (tree : FileTree) (workingDirectory : Spot) (path : Text) : Option Text :=
  match tree.find workingDirectory false path with
  | .ok (_, .link target) => some target
  | _ => none

/-- The links met so far, under the paths as which they were met: where each one leads, or nothing
while it is being followed. -/
abbrev Known : Type := Keyed Text (Option Text)

/-- How far a path has been resolved. An unfinished one ends with a link that leads back to itself
and the rest as written. -/
structure Resolution where
  path : Text
  isFinished : Bool
  known : Known
deriving DecidableEq, Repr

/-- The deepest nesting of links in the targets of links that is followed. -/
def linkNesting : Nat := 985

/-- Resolves components after a path that has no links in it; the targets of links are resolved by
`follow`. -/
def resolveWith (tree : FileTree) (workingDirectory : Spot)
    (follow : Known → Text → List Text → Except Failure Resolution) (known : Known)
    (path : Text) : List Text → Except Failure Resolution
  | [] => .ok ⟨path, true, known⟩
  | component :: rest =>
      if Pathname.isIdle component then
        resolveWith tree workingDirectory follow known path rest
      else if component = ['.', '.'] then
        resolveWith tree workingDirectory follow known (Spelling.above path) rest
      else if component.contains null then .error .nullInPath
      else
        let next := Spelling.append path component
        match tree.linkAt? workingDirectory next with
        | none => resolveWith tree workingDirectory follow known next rest
        | some target =>
            match Keyed.find? next known with
            | some (some reached) =>
                resolveWith tree workingDirectory follow known reached rest
            | some none =>
                .ok ⟨Spelling.append next (Text.join ['/'] rest), false, known⟩
            | none =>
                match follow (Keyed.put next none known)
                    (if Spelling.isAbsolute target then ['/'] else path)
                    (Text.splitOn '/' target) with
                | .error failure => .error failure
                | .ok reached =>
                    if reached.isFinished then
                      resolveWith tree workingDirectory follow
                        (Keyed.put next (some reached.path) reached.known) reached.path rest
                    else
                      .ok ⟨Spelling.append reached.path (Text.join ['/'] rest), false,
                        reached.known⟩

/-- Resolves components after a path that has no links in it, with a bounded nesting of links in
the targets of links. -/
def resolveFrom (tree : FileTree) (workingDirectory : Spot) :
    Nat → Known → Text → List Text → Except Failure Resolution
  | 0 => tree.resolveWith workingDirectory fun _ _ _ => .error .linksTooDeep
  | nesting + 1 =>
      tree.resolveWith workingDirectory (tree.resolveFrom workingDirectory nesting)

/-- A written path without links, as far as it has none that leads back to itself. -/
def resolve (tree : FileTree) (workingDirectory : Spot) (path : Text) : Except Failure Text :=
  (resolveFrom tree workingDirectory linkNesting []
    (if Spelling.isAbsolute path then ['/'] else []) (Text.splitOn '/' path)).map Resolution.path

end CueWatch.FileTree
