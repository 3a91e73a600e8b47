import CueWatch.Proofs.FileTree.Sound
import CueWatch.Proofs.Host.Extension

/-!
Contract: what becomes of a sound file tree and of the temporary names that have been drawn.

Owns:
- `Tended`, which relates a later host to an earlier one when soundness is kept and no temporary
  name has been given back, and `Matures`, when the tree has grown besides;
- that hosts mature when directories are made, files are written and processes run, and are still
  tended when a directory is removed.

Does not own: what the names are drawn for (`Proofs.Host.Temporary`).
-/

namespace CueWatch

open Attempt

theorem FileTree.Alike.trans {entry other third : Entry} (first : FileTree.Alike entry other)
    (second : FileTree.Alike other third) : FileTree.Alike entry third := by
  cases first with
  | same => exact second
  | file content middle =>
      cases second with
      | same => exact .file content middle
      | file _ last => exact .file content last

namespace Host

variable {α : Type}

theorem Grown.refl (host : Host) : Grown host host :=
  ⟨rfl, fun _ entry present => ⟨entry, present, .same entry⟩⟩

theorem Grown.trans {host later latest : Host} (second : Grown latest later)
    (first : Grown later host) : Grown latest host := by
  refine ⟨second.workingDirectory.trans first.workingDirectory, fun path entry present => ?_⟩
  obtain ⟨other, isThere, alike⟩ := first.tree path entry present
  obtain ⟨last, stillThere, stillAlike⟩ := second.tree path other isThere
  exact ⟨last, stillThere, alike.trans stillAlike⟩

/-! ### Later hosts -/

/-- A later host: its file tree is sound if it was before, and temporary names are drawn on from
those drawn before. -/
structure Tended (later host : Host) : Prop where
  sound : host.tree.Sound → later.tree.Sound
  drawn : host.drawn ≤ later.drawn

theorem chains_tended : Chains Tended where
  refl := fun _ => ⟨id, Nat.le_refl _⟩
  trans := fun second first =>
    ⟨fun sound => second.sound (first.sound sound), Nat.le_trans first.drawn second.drawn⟩

/-- A later host that is tended and whose file tree has grown. -/
structure Matures (later host : Host) : Prop extends Tended later host where
  grown : Grown later host

theorem chains_matures : Chains Matures where
  refl := fun host => ⟨chains_tended.refl host, Grown.refl host⟩
  trans := fun second first =>
    ⟨chains_tended.trans second.toTended first.toTended, second.grown.trans first.grown⟩

/-- A host whose tree and working directory are as they were. -/
theorem matures_of_same {host later : Host} (tree : later.tree = host.tree)
    (workingDirectory : later.workingDirectory = host.workingDirectory)
    (drawn : host.drawn ≤ later.drawn) : Matures later host where
  sound := fun sound => by rwa [tree]
  drawn := drawn
  grown := ⟨workingDirectory, tree ▸ (Grown.refl host).tree⟩

theorem matures_of_unlogged {host later : Host} (same : later.unlogged = host.unlogged) :
    Matures later host := by
  have tree : later.unlogged.tree = host.unlogged.tree := congrArg Host.tree same
  have workingDirectory : later.unlogged.workingDirectory = host.unlogged.workingDirectory :=
    congrArg Host.workingDirectory same
  have drawn : host.unlogged.drawn = later.unlogged.drawn := congrArg Host.drawn same.symm
  exact matures_of_same tree workingDirectory (Nat.le_of_eq drawn)

theorem matures_log (level : Journal.Level) (text : Text) : Moves Matures (log level text) :=
  fun host => matures_of_same rfl rfl (Nat.le_refl host.drawn)

/-! ### Making directories and writing files -/

theorem matures_placed {place : Path} {entry : Entry} {host : Host}
    (isFree : FileTree.IsFree host.tree place) : Matures (placed place entry host) host where
  sound := fun sound => sound.place_free isFree entry
  drawn := Nat.le_refl _
  grown := (adds_placed isFree.free entry).grown

theorem matures_makeDirectory (path : Text) : Moves Matures (makeDirectory path) := by
  intro host
  rcases ran : (makeDirectory path).run host with ⟨failure | _, made⟩
  · rw [eq_of_makeDirectory_error ran]
    exact chains_matures.refl host
  · obtain ⟨place, _, leads, rfl⟩ := exists_of_makeDirectory ran
    exact matures_placed leads.free

theorem matures_writeContent (path : Text) (content : Content) :
    Moves Matures (writeContent path content) := by
  intro host
  have ends := writeContent_ends path content host
  generalize (writeContent path content).run host = ended at ends ⊢
  cases ends with
  | refused => exact chains_matures.refl host
  | made leads => exact matures_placed leads.free
  | replaced leads present =>
      obtain ⟨-, isFile⟩ := FileTree.get?_of_file present
      exact
        { sound := fun sound => sound.place_file isFile content
          drawn := Nat.le_refl _
          grown := ⟨rfl, FileTree.grows_place_file isFile content⟩ }

theorem matures_makeTree (isLenient : Bool) (path : Text) :
    Moves Matures (makeTree isLenient path) :=
  moves_makeTree chains_matures matures_makeDirectory isLenient path

theorem matures_makeDirectories (path : Pathname) : Moves Matures (makeDirectories path) :=
  moves_makeDirectories chains_matures matures_makeDirectory path

theorem matures_makeTemporary (start directory : Text) :
    Moves Matures (makeTemporary start directory) := by
  refine moves_makeTemporary chains_matures (fun _ => matures_makeDirectory _) fun host => ?_
  exact matures_of_same rfl rfl (Nat.le_succ host.drawn)

theorem tended_removeTree (path : Text) (host : Host) : Tended (host.removeTree path) host := by
  unfold removeTree
  split
  next spot _ =>
    split
    next => exact ⟨fun sound => sound.prune spot.path, Nat.le_refl _⟩
    next => exact chains_tended.refl host
  next => exact chains_tended.refl host

/-! ### Processes -/

theorem matures_writeAll (writes : List (Text × Content)) : Moves Matures (writeAll writes) := by
  have write : ∀ path content, Moves Matures (writeWithParents path content) := by
    intro path content
    unfold writeWithParents
    dsimp only
    split
    · exact chains_matures.bind (chains_matures.pure ()) fun _ => matures_writeContent path content
    · exact chains_matures.bind (matures_makeTree true _) fun _ =>
        matures_writeContent path content
  induction writes with
  | nil => exact chains_matures.pure ()
  | cons pair rest inductionHypothesis =>
      exact chains_matures.bind (write pair.1 pair.2) fun _ => inductionHypothesis

theorem matures_spawn (argv : List Text) (directory : Option Text) :
    Moves Matures (spawn argv directory) := by
  intro host
  have settles : Moves Matures (settle (host.outcomes.headD .silent)) := by
    refine chains_matures.bind (matures_writeAll _) fun _ => ?_
    split
    · exact chains_matures.fail _
    · exact chains_matures.pure _
  rw [run_spawn]
  refine chains_matures.trans (settles (started ⟨argv, directory⟩ host)) ?_
  exact matures_of_same rfl rfl (Nat.le_refl host.drawn)

theorem Launches.matures {command? : Option Command} {host later : Host}
    (launches : Launches command? host later) : Matures later host := by
  cases command? with
  | none => exact matures_of_unlogged launches
  | some command =>
      obtain ⟨moment, begins, ends⟩ := launches
      exact chains_matures.trans (matures_of_unlogged ends) (chains_matures.trans
        (matures_spawn command.argv command.directory moment) (matures_of_unlogged begins))

end Host

end CueWatch
