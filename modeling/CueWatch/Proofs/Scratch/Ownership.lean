import CueWatch.Proofs.Scratch.Kept

/-!
Contract: a scratch directory owns the directories in it.

Owns:
- `Scratch.Run`, the hosts that allocating, disposing, cleaning up and other people's changes inside
  the scratch directory lead to, in any order, and the directories allocated so far;
- `Scratch.Orderly`, what allocating, disposing and cleaning up do on such a host: which directory
  is made or removed, and that nothing else is; and that every run is orderly.

Does not own: links and files that others put in place of the directories themselves.
-/

namespace CueWatch.Scratch

open Attempt

/-! ### What the steps are to do -/

/-- A directory has been allocated: one name below the scratch directory, where nothing was. It is
empty, and nothing else has changed, but that the scratch directory has been made if it was gone. -/
structure Allocated (root : Text) (own : Path) (start name : Text) (path : Text)
    (later host : Host) : Prop where
  written : path = root ++ '/' :: name
  begins : start <+: name
  plain : Spelling.IsPlain name
  absent : host.tree.get? (own ++ [name]) = none
  found : later.find false path = .ok (FileTree.Spot.at (own ++ [name]), .directory)
  rooted : later.find false root = .ok (FileTree.Spot.at own, .directory)
  empty : ∀ below, below ≠ [] → later.tree.get? (own ++ [name] ++ below) = none
  others : ∀ other, other ≠ own ++ [name] → (other = own → host.tree.get? own ≠ none) →
    later.tree.get? other = host.tree.get? other

/-- What the next step does on a host, if these directories have been allocated. -/
structure Orderly (scratch : Scratch) (own : Path) (paths : List Text) (host : Host) : Prop where
  allocation : ∀ start path later, '/' ∉ start →
    (scratch.allocate start).run host = (.ok path, later) →
    ∃ name, Allocated scratch.root own start name path later host
  disposal : ∀ path ∈ paths, ∃ name, path = scratch.root ++ '/' :: name ∧
    Spelling.IsPlain name ∧ Removed (own ++ [name]) (dispose path host) host
  cleaning : (scratch.cleanup.run host).1 = .ok () ∧
    Removed own (scratch.cleanup.run host).2 host
  cleaningAgain : scratch.cleanup.run (scratch.cleanup.run host).2 =
    (.ok (), (scratch.cleanup.run host).2)

/-! ### Runs -/

/-- What a host may have become since a scratch directory was made, and which directories have been
allocated on the way. -/
inductive Run (scratch : Scratch) (own : Path) (made : Host) : List Text → Host → Prop
  | created : Run scratch own made [] made
  | allocated {paths : List Text} {host later : Host} {start path : Text}
      (earlier : Run scratch own made paths host) (single : '/' ∉ start)
      (ran : (scratch.allocate start).run host = (.ok path, later)) :
      Run scratch own made (path :: paths) later
  | refused {paths : List Text} {host later : Host} {start : Text} {failure : Failure}
      (earlier : Run scratch own made paths host) (single : '/' ∉ start)
      (ran : (scratch.allocate start).run host = (.error failure, later)) :
      Run scratch own made paths later
  | disposed {paths : List Text} {host : Host} {path : Text}
      (earlier : Run scratch own made paths host) (member : path ∈ paths) :
      Run scratch own made paths (dispose path host)
  | cleaned {paths : List Text} {host : Host} (earlier : Run scratch own made paths host) :
      Run scratch own made paths (scratch.cleanup.run host).2
  | meddled {paths : List Text} {host later : Host} (earlier : Run scratch own made paths host)
      (change : Meddled scratch.root own paths later host) : Run scratch own made paths later

section

variable {root : Text} {own : Path} {host later first : Host} {paths : List Text}

/-! ### Allocating -/

/-- The scratch directory is there, and that is all that may have changed. -/
structure Ready (own : Path) (ready host : Host) : Prop where
  isThere : ready.tree.get? own = some .directory
  others : ∀ other, (other = own → host.tree.get? own ≠ none) →
    ready.tree.get? other = host.tree.get? other

/-- The scratch directory is made again if it is gone, and then a directory is made in it. -/
theorem Kept.exists_ready {scratch : Scratch} (kept : Kept scratch.root own first paths host)
    (site : Site scratch.root own first) (start : Text) :
    ∃ ready, Ready own ready host ∧ Kept scratch.root own first paths ready ∧
      (scratch.allocate start).run host = (Host.makeTemporary start scratch.root).run ready := by
  rcases kept.change.top with gone | isThere
  · have notThere : ¬ host.isDirectory? scratch.root = true := by
      intro isThere
      obtain ⟨spot, found⟩ := Host.isDirectory?_iff.mp isThere
      have leads := (Host.find_eq_ok_iff.mp found).1.2
      rw [(kept.leads_free site gone true).2] at leads
      cases leads
    have isFree : FileTree.IsFree host.tree own := (kept.leads_free site gone true).free
    have change := kept.meddled_of_placed isFree (Path.isAtOrAbove_refl own)
    refine ⟨Host.placed own .directory host, ⟨?_, fun other wasThere => ?_⟩,
      kept.of_meddled change, ?_⟩
    · exact FileTree.get?_place_self host.tree isFree.below .directory
    · exact FileTree.get?_place_of_ne (fun same => wasThere same.symm gone) .directory
    · rw [allocate, run_bind_of_ok (run_look _ host), if_neg notThere,
        run_bind_of_ok (kept.run_makeTree site gone)]
  · refine ⟨host, ⟨isThere, fun _ _ => rfl⟩, kept, ?_⟩
    rw [allocate, run_bind_of_ok (run_look _ host), if_pos (kept.holds site isThere).isDirectory?]

theorem isPlain_temporaryName {start : Text} (single : '/' ∉ start) (number : Nat) :
    Spelling.IsPlain (start ++ Host.temporaryDigits number) := by
  have temporary : Host.IsTemporary (start ++ Host.temporaryDigits number) := ⟨start, number, rfl⟩
  obtain ⟨c, ends, digit⟩ := temporary.getLast?_digit
  refine Host.isPlain_of_digit (fun member => ?_) ends digit
  rcases List.mem_append.mp member with before | digits
  · exact single before
  · exact Host.slash_notMem_temporaryDigits number digits

/-- A name below the scratch directory leads one step further. -/
theorem Kept.leads_child (kept : Kept root own first paths host) (site : Site root own first)
    (isThere : host.tree.get? own = some .directory) {name : Text} (usable : Usable root name) :
    Host.Leads host false (root ++ '/' :: name)
      (if host.tree.get? (own ++ [name]) = none then .free (own ++ [name]) false
        else .taken (FileTree.Spot.at (own ++ [name]))) := by
  have holds := kept.holds site isThere
  obtain ⟨⟨-, arrives⟩, -⟩ := Host.find_eq_ok_iff.mp (holds.found true)
  refine ⟨usable.nullFree, ?_⟩
  rw [FileTree.walk_child isThere usable.plain (fun _ _ => rfl) arrives usable.shortPath,
    FileTree.child, if_neg (Nat.not_lt.mpr usable.shortName)]
  split <;> rfl

/-- A temporary directory in the scratch directory is made under a usable name, where nothing is. -/
theorem Kept.exists_made (kept : Kept root own first paths host) (site : Site root own first)
    (isThere : host.tree.get? own = some .directory) {start path : Text} (single : '/' ∉ start)
    (ran : (Host.makeTemporary start root).run host = (.ok path, later)) :
    ∃ name number, path = root ++ '/' :: name ∧ start <+: name ∧ Usable root name ∧
      FileTree.IsFree host.tree (own ++ [name]) ∧
      later = Host.placed (own ++ [name]) .directory { host with drawn := number } := by
  obtain ⟨number, _, written, isMade⟩ := Host.exists_of_makeTemporary ran
  have plain := isPlain_temporaryName single number
  have begins : start <+: start ++ Host.temporaryDigits number := List.prefix_append _ _
  have temporary := Host.isTemporary_append root start number
  rw [site.temporary.append plain.isAbsolute] at written temporary
  generalize start ++ Host.temporaryDigits number = name at written plain begins temporary
  subst written
  obtain ⟨place, _, leads, rfl, -⟩ :=
    Host.find_of_makeDirectory temporary.withoutEndSlashes isMade
  have isChild := leads.child ((kept.holds site isThere).found true) plain fun _ _ => rfl
  obtain rfl := FileTree.child_eq_free isChild
  have shortName : Text.Utf8.size name ≤ FileTree.nameLimit := by
    unfold FileTree.child at isChild
    split at isChild
    next => cases isChild
    next fits => exact Nat.not_lt.mp fits
  have shortPath := (FileTree.walk_eq_ok_iff.mp leads.2).2.1
  exact ⟨name, number, rfl, begins, ⟨plain, leads.1, shortPath, shortName⟩, leads.free, rfl⟩

/-- One more directory with a usable name in the scratch directory. -/
theorem Kept.with_made (kept : Kept root own first paths host) {name : Text}
    (usable : Usable root name) (isFree : FileTree.IsFree host.tree (own ++ [name])) :
    Kept root own first ((root ++ '/' :: name) :: paths)
      (Host.placed (own ++ [name]) .directory host) := by
  have inside : own.isAtOrAbove (own ++ [name]) = true := Path.isAtOrAbove_append own [name]
  have placed := kept.of_meddled (kept.meddled_of_placed isFree inside)
  refine ⟨{ placed.change with allocated := fun other member => ?_ }, fun path member => ?_⟩
  · rcases List.mem_cons.mp member with same | earlier
    · obtain rfl : other = name := by simpa using same
      exact .inr (FileTree.get?_place_self _ isFree.below .directory)
    · exact placed.change.allocated other earlier
  · rcases List.mem_cons.mp member with rfl | earlier
    · exact ⟨name, rfl, usable⟩
    · exact placed.usable path earlier

/-- A successful allocation makes a directory one name below the scratch directory. -/
theorem Kept.exists_allocated {scratch : Scratch} (kept : Kept scratch.root own first paths host)
    (site : Site scratch.root own first) {start path : Text} (single : '/' ∉ start)
    (ran : (scratch.allocate start).run host = (.ok path, later)) :
    ∃ name, Usable scratch.root name ∧ Allocated scratch.root own start name path later host ∧
      Kept scratch.root own first (path :: paths) later := by
  obtain ⟨ready, isReady, keptReady, runs⟩ := kept.exists_ready site start
  rw [runs] at ran
  obtain ⟨name, number, rfl, begins, usable, isFree, rfl⟩ :=
    keptReady.exists_made site isReady.isThere single ran
  let drawn : Host := { ready with drawn := number }
  have keptDrawn : Kept scratch.root own first paths drawn :=
    keptReady.of_meddled (keptReady.meddled_of_same rfl rfl)
  have keptLater := keptDrawn.with_made usable isFree
  refine ⟨name, usable, ?_, keptLater⟩
  generalize isLater : Host.placed (own ++ [name]) .directory drawn = later at keptLater ⊢
  have others (other : Path) (differs : other ≠ own ++ [name]) :
      later.tree.get? other = ready.tree.get? other :=
    isLater ▸ FileTree.get?_place_of_ne (Ne.symm differs) .directory
  have isThere : later.tree.get? own = some .directory :=
    (others own (by simp)).trans isReady.isThere
  have isMade : later.tree.get? (own ++ [name]) = some .directory :=
    isLater ▸ FileTree.get?_place_self _ isFree.below .directory
  have arrives := keptLater.leads_child site isThere usable
  rw [if_neg (by rw [isMade]; exact Option.some_ne_none _)] at arrives
  exact
    { written := rfl
      begins := begins
      plain := usable.plain
      absent := (isReady.others _ fun same => by simp at same).symm.trans isFree.free
      found := Host.find_eq_ok_iff.mpr ⟨arrives, isMade⟩
      rooted := (keptLater.holds site isThere).found false
      empty := fun below nonempty => (others _ (by simpa using nonempty)).trans
        (keptReady.change.sound.get?_of_above isFree.free (Path.isAtOrAbove_append _ below))
      others := fun other differs wasThere =>
        (others other differs).trans (isReady.others other wasThere) }

/-- A failed allocation does no more than make the scratch directory again. -/
theorem Kept.of_refused {scratch : Scratch} (kept : Kept scratch.root own first paths host)
    (site : Site scratch.root own first) {start : Text} {failure : Failure}
    (ran : (scratch.allocate start).run host = (.error failure, later)) :
    Kept scratch.root own first paths later := by
  obtain ⟨ready, _, keptReady, runs⟩ := kept.exists_ready site start
  rw [runs] at ran
  let view (host : Host) : FileTree × FileTree.Spot := (host.tree, host.workingDirectory)
  have blind (host : Host) (number : Nat) : view { host with drawn := number } = view host := rfl
  have same := atomic_makeTemporary blind start scratch.root ready failure later ran
  exact keptReady.of_meddled
    (keptReady.meddled_of_same (congrArg Prod.fst same) (congrArg Prod.snd same))

/-! ### Disposing -/

/-- A path below the scratch directory leads to nothing unless both directories are there. -/
theorem Kept.dispose_of_absent (kept : Kept root own first paths host)
    (site : Site root own first) {name : Text} (usable : Usable root name)
    (absent : host.tree.get? (own ++ [name]) = none) :
    dispose (root ++ '/' :: name) host = host := by
  have nothing : ∀ found, host.find false (root ++ '/' :: name) ≠ .ok found := by
    rintro ⟨spot, entry⟩ found
    obtain ⟨leads, -⟩ := Host.find_eq_ok_iff.mp found
    have nonempty : root ≠ [] := by
      obtain ⟨c, ends, -⟩ := site.temporary.getLast?
      rintro rfl
      cases ends
    rcases kept.change.top with gone | isThere
    · obtain ⟨here, arrives, -⟩ :=
        FileTree.walk_init (.name usable.plain) usable.plain.single nonempty leads.2
      rw [(kept.leads_free site gone true).2] at arrives
      cases arrives
    · have free := kept.leads_child site isThere usable
      rw [if_pos absent] at free
      have same := leads.2.symm.trans free.2
      cases same
  rw [dispose, Host.removeTree]
  split
  next found => exact absurd found (nothing _)
  next => rfl

theorem Kept.dispose_of_present (kept : Kept root own first paths host)
    (site : Site root own first) {name : Text} (usable : Usable root name)
    (present : host.tree.get? (own ++ [name]) = some .directory) :
    dispose (root ++ '/' :: name) host = host.pruneAt (own ++ [name]) := by
  have isThere : host.tree.get? own = some .directory := by
    have above := kept.change.sound _ _ present
    rwa [Path.parent, List.dropLast_concat] at above
  have leads := kept.leads_child site isThere usable
  rw [if_neg (by rw [present]; exact Option.some_ne_none _)] at leads
  rw [dispose, Host.removeTree, Host.find_eq_ok_iff.mpr ⟨leads, present⟩]
  exact if_pos rfl

/-- Disposing of an allocated directory removes it and what is in it. -/
theorem Kept.exists_disposed (kept : Kept root own first paths host) (site : Site root own first)
    {path : Text} (member : path ∈ paths) :
    ∃ name, path = root ++ '/' :: name ∧ Spelling.IsPlain name ∧
      Removed (own ++ [name]) (dispose path host) host ∧
      Kept root own first paths (dispose path host) := by
  obtain ⟨name, rfl, usable⟩ := kept.usable path member
  refine ⟨name, rfl, usable.plain, ?_⟩
  rcases kept.change.allocated name member with absent | present
  · rw [kept.dispose_of_absent site usable absent]
    exact ⟨removed_of_absent kept.change.sound absent, kept⟩
  · have below : own ++ [name] ≠ [] := by simp
    have inside : own.isAtOrAbove (own ++ [name]) = true := Path.isAtOrAbove_append own [name]
    rw [kept.dispose_of_present site usable present]
    exact ⟨removed_pruneAt below host, kept.of_meddled (kept.meddled_of_pruneAt site inside below)⟩

/-! ### Cleaning up -/

theorem Kept.run_cleanup_of_gone {scratch : Scratch}
    (kept : Kept scratch.root own first paths host) (site : Site scratch.root own first)
    (gone : host.tree.get? own = none) : scratch.cleanup.run host = (.ok (), host) := by
  obtain ⟨nullFree, ends⟩ := kept.leads_free site gone true
  have absent : (Attempt.require (Host.isPresent scratch.root)).run host = (.ok false, host) := by
    rw [run_require, Host.isPresent, Host.find, nullFree, FileTree.find, ends]
    rfl
  rw [cleanup, run_bind_of_ok absent]
  rfl

/-- Cleaning up succeeds, and removes the scratch directory with what is in it. -/
theorem Kept.run_cleanup {scratch : Scratch} (kept : Kept scratch.root own first paths host)
    (site : Site scratch.root own first) :
    (scratch.cleanup.run host).1 = .ok () ∧ Removed own (scratch.cleanup.run host).2 host ∧
      Kept scratch.root own first paths (scratch.cleanup.run host).2 := by
  rcases kept.change.top with gone | isThere
  · rw [kept.run_cleanup_of_gone site gone]
    exact ⟨rfl, removed_of_absent kept.change.sound gone, kept⟩
  · have holds := kept.holds site isThere
    have present : (Attempt.require (Host.isPresent scratch.root)).run host = (.ok true, host) := by
      rw [run_require, Host.isPresent, holds.found true]
    have keptLater := kept.of_meddled
      (kept.meddled_of_pruneAt site (Path.isAtOrAbove_refl own) holds.below)
    rw [cleanup, run_bind_of_ok present, if_pos rfl, run_bind_of_ok (run_change _ host),
      Host.removeTree_of_holds holds]
    exact ⟨rfl, removed_pruneAt holds.below host,
      keptLater.of_meddled (keptLater.meddled_of_same rfl rfl)⟩

/-! ### Runs of steps -/

theorem Run.kept {scratch : Scratch} {made : Host} (run : Run scratch own made paths later)
    (site : Site scratch.root own first) (begins : Kept scratch.root own first [] made) :
    Kept scratch.root own first paths later := by
  induction run with
  | created => exact begins
  | allocated earlier single ran inductionHypothesis =>
      obtain ⟨_, -, -, kept⟩ := inductionHypothesis.exists_allocated site single ran
      exact kept
  | refused earlier single ran inductionHypothesis => exact inductionHypothesis.of_refused site ran
  | disposed earlier member inductionHypothesis =>
      obtain ⟨_, -, -, -, kept⟩ := inductionHypothesis.exists_disposed site member
      exact kept
  | cleaned earlier inductionHypothesis => exact (inductionHypothesis.run_cleanup site).2.2
  | meddled earlier change inductionHypothesis => exact inductionHypothesis.of_meddled change

end

end CueWatch.Scratch
