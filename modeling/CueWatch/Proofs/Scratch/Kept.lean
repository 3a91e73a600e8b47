import CueWatch.Proofs.FileTree.Upward
import CueWatch.Proofs.Scratch

/-!
Contract: what stays true of a scratch directory whatever is done inside it.

Owns:
- `Scratch.Meddled`, the changes inside a scratch directory that leave nothing but a directory at
  its place and at the places of allocated directories, and `Scratch.Removed`, the removal of a
  place;
- `Scratch.Site`, a free place for a scratch directory, and `Scratch.Kept`, the invariant that it
  is left with nothing but such changes inside;
- where the path of the scratch directory leads then, and that making it again makes it at its place.

Does not own: the steps that are taken (`Proofs.Scratch.Ownership`).
-/

namespace CueWatch

open Attempt

/-! ### Paths of one component -/

namespace Spelling

theorem solid_of_single {path : Text} (single : '/' ∉ path) :
    ∀ c ∈ path.reverse, decide (c ≠ '/') = true := by
  intro c member
  rw [decide_eq_true_eq]
  rintro rfl
  exact single (List.mem_reverse.mp member)

theorem name_of_single {path : Text} (single : '/' ∉ path) : name path = path := by
  have whole : (path.reverse ++ []).takeWhile (fun c => decide (c ≠ '/')) = path.reverse ++ [] :=
    List.takeWhile_append_of_pos (solid_of_single single)
  rw [List.append_nil] at whole
  rw [name, whole, List.reverse_reverse]

theorem directory_of_single {path : Text} (single : '/' ∉ path) : directory path = [] := by
  have nothing : (path.reverse ++ []).dropWhile (fun c => decide (c ≠ '/')) = [] :=
    List.dropWhile_append_of_pos (solid_of_single single)
  rw [List.append_nil] at nothing
  rw [directory, Text.dropEndWhile, nothing]
  rfl

end Spelling

namespace Scratch

/-! ### Changes inside a scratch directory -/

/-- What stood at a place and below it has been removed, and nothing else has changed: links below
the place are gone as well, and whatever they led to is as it was. -/
def Removed (place : Path) (later host : Host) : Prop :=
  ∀ path, later.tree.get? path =
    if place.isAtOrAbove path = true then none else host.tree.get? path

/-- A directory stands at a place, or nothing does. -/
def IsOpen (host : Host) (place : Path) : Prop :=
  host.tree.get? place = none ∨ host.tree.get? place = some .directory

/-- Others have changed something in the scratch directory, or removed it, without putting a link or
a file in place of it or of an allocated directory. -/
structure Meddled (root : Text) (own : Path) (paths : List Text) (later host : Host) : Prop where
  sound : later.tree.Sound
  workingDirectory : later.workingDirectory = host.workingDirectory
  outside : ∀ path, ¬ own.isAtOrAbove path = true → later.tree.get? path = host.tree.get? path
  top : IsOpen later own
  allocated : ∀ name, root ++ '/' :: name ∈ paths → IsOpen later (own ++ [name])

/-! ### Where a scratch directory is made -/

/-- A temporary path that leads to a free place, on a host whose working directory is there. -/
structure Site (root : Text) (own : Path) (host : Host) : Prop where
  temporary : Host.IsTemporary root
  sound : host.tree.Sound
  stands : host.tree.get? host.workingDirectory.path = some .directory
  leads : ∃ asDirectory, Host.Leads host false root (.free own asDirectory)

section

variable {root : Text} {own : Path} {host later : Host}

theorem Site.isFree (site : Site root own host) : FileTree.IsFree host.tree own := by
  obtain ⟨_, leads⟩ := site.leads
  exact leads.free

theorem Site.absent (site : Site root own host) {path : Path}
    (inside : own.isAtOrAbove path = true) : host.tree.get? path = none :=
  site.sound.get?_of_above site.isFree.free inside

/-- A name that can be used below a path: neither it nor the path with it is too long. -/
structure Usable (root name : Text) : Prop where
  plain : Spelling.IsPlain name
  nullFree : (root ++ '/' :: name).contains FileTree.null = false
  shortPath : Text.Utf8.size (root ++ '/' :: name) ≤ FileTree.pathLimit
  shortName : Text.Utf8.size name ≤ FileTree.nameLimit

/-- The invariant of a run: no more has happened since the first host than that something in the
scratch directory has changed, and the directories that have been allocated have usable names. -/
structure Kept (root : Text) (own : Path) (first : Host) (paths : List Text) (host : Host) :
    Prop where
  change : Meddled root own paths host first
  usable : ∀ path ∈ paths, ∃ name, path = root ++ '/' :: name ∧ Usable root name

variable {first : Host} {paths : List Text}

theorem Kept.grown (kept : Kept root own first paths host) (site : Site root own first) :
    Host.Grown host first where
  workingDirectory := kept.change.workingDirectory
  tree := by
    refine FileTree.Includes.grows fun path entry present => ?_
    rw [kept.change.outside path, present]
    intro inside
    rw [site.absent inside] at present
    cases present

/-- While the scratch directory is gone, its path leads to the free place. -/
theorem Kept.leads_free (kept : Kept root own first paths host) (site : Site root own first)
    (gone : host.tree.get? own = none) (followLast : Bool) :
    Host.Leads host followLast root (.free own false) := by
  obtain ⟨_, nullFree, ends⟩ := site.leads
  obtain ⟨name, plain, split⟩ := site.temporary.exists_last
  have pieces : ∃ upper, Text.splitOn '/' root = upper ++ [name] := by
    rcases split with rfl | ⟨base, rfl⟩
    · exact ⟨[], Text.splitOn_whole plain.single⟩
    · exact ⟨_, by rw [Text.splitOn_append, Text.splitOn_whole plain.single]⟩
  obtain ⟨upper, pieces⟩ := pieces
  refine ⟨nullFree, ?_⟩
  rw [kept.change.workingDirectory]
  exact FileTree.walk_free_of_grows (kept.grown site).tree pieces plain ends gone followLast

/-- While the scratch directory is there, its path leads to it. -/
theorem Kept.holds (kept : Kept root own first paths host) (site : Site root own first)
    (isThere : host.tree.get? own = some .directory) : Host.Holds root own host where
  temporary := site.temporary
  sound := kept.change.sound
  below := site.isFree.below
  found := by
    intro followLast
    obtain ⟨asDirectory, leads⟩ := site.leads
    have leads : Host.Leads first followLast root (.free own asDirectory) := by
      cases followLast with
      | false => exact leads
      | true =>
          refine ⟨leads.1, ?_⟩
          rw [FileTree.walk_following (by rw [leads.2]; rintro spot ⟨⟩), leads.2]
    have arrives := (kept.grown site).leads leads (.directory asDirectory isThere)
    exact Host.find_eq_ok_iff.mpr ⟨arrives, isThere⟩

/-- What the path of the scratch directory is written after leads to a directory. -/
theorem Kept.above (kept : Kept root own first paths host) (site : Site root own first) :
    Spelling.name root ≠ [] ∧
      (Spelling.directory root = [] ∨ host.exists? (Spelling.directory root) = true) := by
  obtain ⟨_, nullFree, ends⟩ := site.leads
  obtain ⟨name, plain, rfl | ⟨base, rfl⟩⟩ := site.temporary.exists_last
  · rw [Spelling.name_of_single plain.single, Spelling.directory_of_single plain.single]
    exact ⟨plain.nonempty, .inl rfl⟩
  · rw [Spelling.name_append base plain.single]
    refine ⟨plain.nonempty, .inr ?_⟩
    obtain ⟨here, arrives, isDirectory⟩ := FileTree.walk_directory plain ends
    have nullFree : (Spelling.directory (base ++ '/' :: name)).contains FileTree.null = false := by
      have single := (Spelling.directory_isPrefix (base ++ '/' :: name)).subset
      rw [List.contains_eq_mem, decide_eq_false_iff_not] at nullFree ⊢
      exact fun member => nullFree (single member)
    have leads : Host.Leads first true _ (.taken (FileTree.Spot.at here)) := ⟨nullFree, arrives⟩
    have stillLeads := (kept.grown site).leads leads (.taken _)
    have isThere := (kept.grown site).tree.directory isDirectory
    rw [Host.exists?, Host.find_eq_ok_iff.mpr ⟨stillLeads, isThere⟩]

theorem Kept.run_makeTree (kept : Kept root own first paths host) (site : Site root own first)
    (gone : host.tree.get? own = none) :
    (Host.makeTree true root).run host = (.ok (), Host.placed own .directory host) := by
  obtain ⟨named, above⟩ := kept.above site
  have isTree : Host.treePath root = root := if_neg named
  have made : (Host.makeDirectory root).run host = (.ok (), Host.placed own .directory host) := by
    rw [Host.run_makeDirectory, Host.lastPlace_eq_ok_iff.mpr
      (site.temporary.withoutEndSlashes.symm ▸ kept.leads_free site gone false)]
  have ensured : (Host.ensureDirectory root).run host =
      (.ok (), Host.placed own .directory host) := by
    rw [Host.ensureDirectory, run_rescue, made]
  have complete : ((Spelling.directory root).isEmpty ||
      host.exists? (Spelling.directory root)) = true := by
    rw [Bool.or_eq_true, List.isEmpty_iff]
    exact above
  rw [Host.makeTree, isTree, dif_pos named]
  dsimp only
  rw [run_bind_of_ok (run_look _ host), if_pos complete, run_bind_of_ok (run_pure false host)]
  exact ensured

/-! ### Changes inside the scratch directory -/

theorem Kept.of_meddled (kept : Kept root own first paths host)
    (change : Meddled root own paths later host) : Kept root own first paths later where
  change :=
    { change with
      workingDirectory := change.workingDirectory.trans kept.change.workingDirectory
      outside := fun path outside =>
        (change.outside path outside).trans (kept.change.outside path outside) }
  usable := kept.usable

theorem Kept.meddled_of_same (kept : Kept root own first paths host)
    (tree : later.tree = host.tree)
    (workingDirectory : later.workingDirectory = host.workingDirectory) :
    Meddled root own paths later host where
  sound := tree ▸ kept.change.sound
  workingDirectory := workingDirectory
  outside := fun path _ => congrArg (fun tree => tree.get? path) tree
  top := by
    rw [IsOpen, tree]
    exact kept.change.top
  allocated := by
    intro name member
    rw [IsOpen, tree]
    exact kept.change.allocated name member

theorem IsOpen.placed {place path : Path} (isOpen : IsOpen host path) (below : place ≠ []) :
    IsOpen (Host.placed place .directory host) path := by
  by_cases same : place = path
  · subst same
    exact .inr (FileTree.get?_place_self host.tree below .directory)
  · rw [IsOpen, Host.placed, FileTree.get?_place_of_ne same]
    exact isOpen

theorem Kept.meddled_of_placed (kept : Kept root own first paths host) {place : Path}
    (isFree : FileTree.IsFree host.tree place) (inside : own.isAtOrAbove place = true) :
    Meddled root own paths (Host.placed place .directory host) host where
  sound := kept.change.sound.place_free isFree .directory
  workingDirectory := rfl
  outside := (Host.Still.of_placed inside .directory host).outside
  top := kept.change.top.placed isFree.below
  allocated := fun name member => (kept.change.allocated name member).placed isFree.below

theorem removed_pruneAt {place : Path} (below : place ≠ []) (host : Host) :
    Removed place (host.pruneAt place) host := by
  intro path
  have notRoot : place.isAtOrAbove [] ≠ true := by
    intro above
    rw [Path.isAtOrAbove, List.isPrefixOf_iff_prefix, List.prefix_nil] at above
    exact below above
  rw [Host.pruneAt, FileTree.get?_prune]
  by_cases top : path = []
  · rw [if_pos top, top, if_neg notRoot]
    rfl
  · rw [if_neg top]

theorem removed_of_absent (sound : host.tree.Sound) {place : Path}
    (absent : host.tree.get? place = none) : Removed place host host := by
  intro path
  split
  next below => exact sound.get?_of_above absent below
  next => rfl

theorem IsOpen.of_removed {place path : Path} (isOpen : IsOpen host path)
    (removed : Removed place later host) : IsOpen later path := by
  rw [IsOpen, removed path]
  split
  next => exact .inl rfl
  next => exact isOpen

theorem Kept.meddled_of_pruneAt (kept : Kept root own first paths host)
    (site : Site root own first) {place : Path} (inside : own.isAtOrAbove place = true)
    (below : place ≠ []) : Meddled root own paths (host.pruneAt place) host where
  sound := kept.change.sound.prune place
  workingDirectory := by
    -- The working directory is there, and so it is not in the scratch directory.
    refine if_neg fun above => ?_
    have absent := site.absent (Path.isAtOrAbove_trans inside above)
    rw [kept.change.workingDirectory, site.stands] at absent
    cases absent
  outside := by
    intro path outside
    rw [removed_pruneAt below host path, if_neg]
    exact fun above => outside (Path.isAtOrAbove_trans inside above)
  top := kept.change.top.of_removed (removed_pruneAt below host)
  allocated := fun name member =>
    (kept.change.allocated name member).of_removed (removed_pruneAt below host)

end

end Scratch

end CueWatch
