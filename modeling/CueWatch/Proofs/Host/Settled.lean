import CueWatch.Proofs.FileTree.Relative

/-!
Contract: what a path without circles of links is settled to.

Owns:
- `Host.IsLoopFree`, that no link on the way of a path leads back to itself;
- `Host.IsWithinReach`, the relative paths whose way from the root is the one from the working
  directory;
- that the path which a path without circles is settled to is settled to itself.

Does not own: whether anything stands there (`Host.isPresent`).
-/

namespace CueWatch

open FileTree

namespace Host

/-- How far a path is resolved, seen from the working directory. -/
def resolution (path : Text) (host : Host) : Except Failure Resolution :=
  host.tree.resolveFrom host.workingDirectory linkNesting []
    (if Spelling.isAbsolute path then ['/'] else []) (Text.splitOn '/' path)

/-- Resolving a path comes to an end: no link on its way leads back to itself. -/
def IsLoopFree (path : Text) (host : Host) : Prop :=
  ∃ resolution, host.resolution (Pathname.ofText path).text = .ok resolution ∧
    resolution.isFinished = true

/-- A path is one from the root, or it starts from a working directory that stands in the tree and
is, without its links, not too long to be looked up. -/
def IsWithinReach (path : Text) (host : Host) : Prop :=
  Spelling.isAbsolute path = true ∨
    host.tree.Stands host.workingDirectory.path ∧
    ∀ resolution, host.resolution (Pathname.ofText path).text = .ok resolution →
      Text.Utf8.size resolution.path ≤ pathLimit

variable {host : Host}

theorem isAbsolute_text_ofText (path : Text) :
    Spelling.isAbsolute (Pathname.ofText path).text = Spelling.isAbsolute path := by
  cases rooted : Spelling.isAbsolute path with
  | true =>
      have root : Spelling.IsRoot (Pathname.ofText path).root := Spelling.isRoot_root rooted
      rw [Pathname.text]
      rcases root with same | same <;> rw [same] <;> rfl
  | false =>
      have noSlash : path.head? ≠ some '/' := by simpa [Spelling.isAbsolute] using rooted
      have root : (Pathname.ofText path).root = [] := Spelling.root_append (.inl rfl) noSlash
      have tidy := Pathname.isTidy_ofText path
      rw [Pathname.text, root]
      split
      next => rfl
      next =>
        refine Spelling.isAbsolute_join fun part member => ?_
        obtain ⟨busy, single⟩ := tidy.parts part member
        exact ⟨Pathname.ne_nil_of_busy busy, single⟩

/-- The path name from the root along some names. -/
def fromRoot (names : List Text) : Pathname := ⟨['/'], names⟩

theorem text_fromRoot (names : List Text) : (fromRoot names).text = Start.root.text names := by
  simp [fromRoot, Pathname.text, Start.text, Start.slash, Start.ascent]

theorem isCanonical_fromRoot {names : List Text} (plain : ∀ name ∈ names, Spelling.IsPlain name) :
    (fromRoot names).IsCanonical :=
  ⟨.inl rfl, plain⟩

theorem absolute_root {names : List Text} (plain : ∀ name ∈ names, Spelling.IsPlain name)
    (host : Host) : host.absolute (Start.root.text names) = .ok (Start.root.text names) := by
  have rooted : Spelling.isAbsolute (Start.root.text names) = true := rfl
  have normal : Spelling.normal (Start.root.text names) = Start.root.text names :=
    Spelling.normal_of_plain (.inl rfl) plain
  rw [absolute, rooted, if_pos rfl, normal]

theorem canonical_of_linkless {names : List Text}
    (linkless : IsLinkless host.tree host.workingDirectory .root names) :
    host.canonical (Start.root.text names) = .ok (Start.root.text names) := by
  rw [canonical, resolve_of_linkless linkless]
  exact absolute_root linkless.plain host

/-- A way without links from the working directory is, seen from there, a way without links from the
root. -/
theorem exists_linkless_of_up {levels : Nat} {names : List Text} {spelling : Text}
    (stands : host.tree.Stands host.workingDirectory.path)
    (linkless : IsLinkless host.tree host.workingDirectory (.up levels) names)
    (short : Text.Utf8.size ((Start.up levels).text names) ≤ pathLimit)
    (found : host.absolute ((Start.up levels).text names) = .ok spelling) :
    ∃ names, IsLinkless host.tree host.workingDirectory .root names ∧
      spelling = Start.root.text names := by
  rw [absolute, Start.isAbsolute_text_up levels linkless.plain, if_neg Bool.false_ne_true,
    workingText, workingPath] at found
  split at found
  next inTree =>
    obtain rfl := Except.ok.inj found
    have isSpot : host.workingDirectory = Spot.at host.workingDirectory.path := by
      rw [Spot.at, ← inTree]
    rw [isSpot] at linkless
    refine ⟨_, ?_, absolute_text_up stands.plain linkless.plain⟩
    rw [isSpot]
    exact linkless.of_up stands short
  next => cases found

/-- A path without circles of links is canonically one without links. -/
theorem exists_linkless_of_canonical {path spelling : Text} (inReach : host.IsWithinReach path)
    (loopFree : host.IsLoopFree path)
    (found : host.canonical (Pathname.ofText path).text = .ok spelling) :
    ∃ names, IsLinkless host.tree host.workingDirectory .root names ∧
      spelling = Start.root.text names := by
  obtain ⟨resolution, resolved, finished⟩ := loopFree
  have rooted := isAbsolute_text_ofText path
  obtain ⟨⟨start, names, isRoot, linkless, ends⟩, -⟩ :
      IsFinal host.tree host.workingDirectory (Spelling.isAbsolute path = true) resolution.path ∧
      KnowsFinal host.tree host.workingDirectory (Spelling.isAbsolute path = true)
        resolution.known := by
    refine endsFinal_resolveFrom linkNesting _ _ _ ?_ ?_ ?_ resolution resolved finished
    · exact nofun
    · rw [rooted]
      split
      next => exact isFinal_root
      next relative => exact isFinal_nil relative
    · exact fun _ => Text.notMem_of_mem_splitOn
  have located : host.absolute (start.text names) = .ok spelling := by
    rw [canonical, resolve, ← Host.resolution, resolved] at found
    rwa [← ends]
  cases start with
  | root =>
      rw [absolute_root linkless.plain] at located
      exact ⟨names, linkless, (Except.ok.inj located).symm⟩
  | up levels =>
      rcases inReach with isRooted | ⟨stands, short⟩
      · cases isRoot isRooted
      · refine exists_linkless_of_up stands linkless ?_ located
        rw [← ends]
        exact short resolution resolved

/-- What a path without circles of links is settled to is settled to itself. -/
theorem settled_settled {file : Text} {path : Pathname} (inReach : host.IsWithinReach file)
    (loopFree : host.IsLoopFree file) (settles : host.settled file = .ok path) :
    host.settled path.text = .ok path := by
  unfold settled at settles
  cases found : host.canonical (Pathname.ofText file).text with
  | error failure =>
      rw [found] at settles
      cases settles
  | ok spelling =>
      obtain ⟨names, linkless, rfl⟩ := exists_linkless_of_canonical inReach loopFree found
      have readBack : Pathname.ofText (fromRoot names).text = fromRoot names :=
        (isCanonical_fromRoot linkless.plain).ofText_text
      rw [found, ← text_fromRoot] at settles
      dsimp only at settles
      have same : path = fromRoot names := by
        split at settles
        next => cases settles
        next => cases settles
        next => rw [← Except.ok.inj settles, readBack]
      rw [same] at settles ⊢
      rw [settled, readBack, text_fromRoot, canonical_of_linkless linkless, ← text_fromRoot]
      exact settles

end Host

end CueWatch
