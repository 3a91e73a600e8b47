import CueWatch.Proofs.Host.Upkeep
import CueWatch.Proofs.Settings.Persistence

/-!
Contract: what loading settings does to the host.

Owns:
- `readThere`, the reading of settings once their directory has been made, and that loading moves
  along every relation along which making directories and logging do;
- that loading is additive, and makes nothing but directories;
- that the directory of settings that have been loaded is there.

Does not own: which settings are loaded (`Proofs.Settings.Loading`).
-/

namespace CueWatch

/-- What the file at a path holds, if there is one. -/
def FileTree.fileAt? (tree : FileTree) (path : Path) : Option Content :=
  match tree.get? path with
  | some (.file content) => some content
  | _ => none

namespace Settings.Store

open Attempt Host

/-- The values that are read when the directory has been made. -/
def readThere (directory : Pathname) : Attempt Host (Keyed Key Value) := do
  let path := (fileIn directory).text
  if ← Attempt.require (isPresent path) then
    match ← Attempt.look (readText path) with
    | .ok text =>
        let (values, note) ← Attempt.ofExcept (overlay text)
        warn note
        pure values
    | .error failure =>
        if failure.isSystem then
          warn (some unusableNote)
          pure defaults
        else Attempt.fail failure
  else pure defaults

theorem read_eq (directory : Pathname) :
    read directory = (makeDirectories directory >>= fun _ => readThere directory) :=
  rfl

section

variable {relation : Host → Host → Prop} (chains : Chains relation)
  (logging : ∀ level text, Moves relation (log level text))

include chains logging

theorem moves_readThere (directory : Pathname) : Moves relation (readThere directory) := by
  have warning : ∀ note, Moves relation (warn note) := by
    intro note
    cases note with
    | none => exact chains.pure ()
    | some text => exact logging _ text
  refine chains.bind (chains.require _) fun isThere => Moves.ite ?_ (chains.pure _)
  refine chains.bind (chains.look _) fun content => ?_
  cases content with
  | ok text =>
      refine chains.bind (chains.ofExcept _) fun pair => ?_
      exact chains.bind (warning pair.2) fun _ => chains.pure _
  | error failure =>
      refine Moves.ite ?_ (chains.fail failure)
      exact chains.bind (warning _) fun _ => chains.pure _

theorem moves_load (making : ∀ path, Moves relation (makeDirectory path)) (given : Option Text) :
    Moves relation (load given) := by
  refine chains.bind (chains.require _) fun directory => ?_
  refine chains.bind ?_ fun values => chains.pure _
  rw [read_eq]
  exact chains.bind (moves_makeDirectories chains making directory) fun _ =>
    moves_readThere chains logging directory

end

theorem additive_load (given : Option Text) : Additive (load given) :=
  moves_load chains_extends additive_log additive_makeDirectory given

theorem matures_load (given : Option Text) : Moves Matures (load given) :=
  moves_load chains_matures matures_log matures_makeDirectory given

/-- The directory of settings that have been loaded is there. -/
theorem directory_of_load {given : Option Text} {host loaded : Host} {settings : Settings.Store}
    (ran : (load given).run host = (.ok settings, loaded)) :
    settings.directory.IsTidy ∧ loaded.isDirectory? settings.directory.text = true := by
  obtain ⟨directory, _, directed, ran⟩ := run_bind_eq_ok_iff.mp ran
  obtain ⟨values, reached, isRead, ran⟩ := run_bind_eq_ok_iff.mp ran
  obtain ⟨same, rfl⟩ := Prod.mk.inj ran
  obtain rfl := Except.ok.inj same
  have tidy := isTidy_of_directoryFor (Prod.mk.inj directed).1
  rw [read_eq] at isRead
  obtain ⟨_, made, isMade, isRead⟩ := run_bind_eq_ok_iff.mp isRead
  have matures := moves_readThere chains_matures matures_log directory made
  rw [isRead] at matures
  exact ⟨tidy, matures.grown.isDirectory?
    (isDirectory?_of_makeDirectoriesFrom tidy.withoutEndSlashes isMade)⟩

/-! ### Making directories only -/

/-- Since an earlier host, nothing has happened to the file tree but that directories were made where
nothing was. -/
def Furnishes (later host : Host) : Prop :=
  ∀ path, later.tree.get? path = host.tree.get? path ∨
    host.tree.get? path = none ∧ later.tree.get? path = some .directory

theorem chains_furnishes : Chains Furnishes where
  refl := fun _ _ => .inl rfl
  trans := by
    intro host later latest second first path
    rcases second path with same | ⟨free, made⟩
    · rw [same]
      exact first path
    · rcases first path with same | ⟨-, isThere⟩
      · rw [← same]
        exact .inr ⟨free, made⟩
      · rw [isThere] at free
        cases free

/-- No file comes or goes where only directories are made. -/
theorem Furnishes.fileAt? {later host : Host} (furnishes : Furnishes later host) (path : Path) :
    later.tree.fileAt? path = host.tree.fileAt? path := by
  rw [FileTree.fileAt?, FileTree.fileAt?]
  rcases furnishes path with same | ⟨free, made⟩
  · rw [same]
  · rw [free, made]

theorem furnishes_makeDirectory (path : Text) : Moves Furnishes (makeDirectory path) := by
  intro host
  rcases ran : (makeDirectory path).run host with ⟨failure | _, made⟩
  · rw [eq_of_makeDirectory_error ran]
    exact chains_furnishes.refl host
  · obtain ⟨place, _, leads, rfl⟩ := exists_of_makeDirectory ran
    intro other
    by_cases same : place = other
    · rw [← same]
      exact .inr ⟨leads.free.free, FileTree.get?_place_self host.tree leads.free.below .directory⟩
    · exact .inl (FileTree.get?_place_of_ne same .directory)

theorem furnishes_load (given : Option Text) : Moves Furnishes (load given) :=
  moves_load chains_furnishes (fun _ _ _ _ => .inl rfl) furnishes_makeDirectory given

end Settings.Store

end CueWatch
