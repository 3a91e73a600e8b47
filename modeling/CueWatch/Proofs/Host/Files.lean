import CueWatch.Host.Files
import CueWatch.Proofs.Attempt
import CueWatch.Proofs.FileTree.Walk

/-!
Contract: what is found at a path after directories have been made and files written.

Owns:
- what `find` and `walk` of a host say about its tree;
- that a directory that was made is there, stays there while files are written, and is made again
  without any change;
- that a written file is read back.

Does not own: what the files are for.
-/

namespace CueWatch.Host

/-! ### Finding -/

/-- Where a path leads in the tree of a host. -/
def Leads (host : Host) (followLast : Bool) (path : Text) (place : FileTree.Place) : Prop :=
  path.contains FileTree.null = false ∧
    host.tree.walk host.workingDirectory followLast path = .ok place

theorem walk_eq_ok_iff {followLast : Bool} {path : Text} {host : Host} {place : FileTree.Place} :
    host.walk followLast path = .ok place ↔ Leads host followLast path place := by
  rw [walk, Leads]
  cases path.contains FileTree.null with
  | true => simp
  | false => cases host.tree.walk host.workingDirectory followLast path <;> simp

theorem find_eq_ok_iff {followLast : Bool} {path : Text} {host : Host} {spot : FileTree.Spot}
    {entry : Entry} :
    host.find followLast path = .ok (spot, entry) ↔
      Leads host followLast path (.taken spot) ∧ host.tree.entryAt? spot = some entry := by
  rw [Leads, find, FileTree.find]
  cases path.contains FileTree.null with
  | true => simp
  | false =>
      rcases host.tree.walk host.workingDirectory followLast path with error | here | _
      · simp
      · cases present : host.tree.entryAt? here with
        | none =>
            simp only [Bool.false_eq_true, if_false, present]
            constructor
            · rintro ⟨⟩
            · rintro ⟨⟨-, ⟨⟩⟩, found⟩
              rw [present] at found
              cases found
        | some found =>
            simp only [Bool.false_eq_true, if_false, present]
            constructor
            · rintro ⟨⟩
              exact ⟨⟨trivial, rfl⟩, present⟩
            · rintro ⟨⟨-, ⟨⟩⟩, same⟩
              rw [present] at same
              obtain rfl := Option.some.inj same
              rfl
      · simp

theorem isDirectory?_iff {path : Text} {host : Host} :
    host.isDirectory? path = true ↔ ∃ spot, host.find true path = .ok (spot, .directory) := by
  rw [isDirectory?]
  rcases host.find true path with failure | ⟨spot, _ | _ | _⟩ <;> simp

/-- A host whose tree has grown. -/
structure Grown (larger host : Host) : Prop where
  workingDirectory : larger.workingDirectory = host.workingDirectory
  tree : FileTree.Grows host.tree larger.tree

/-- A host with nothing but additions to its tree. -/
structure Adds (larger host : Host) : Prop where
  workingDirectory : larger.workingDirectory = host.workingDirectory
  tree : FileTree.Includes larger.tree host.tree

theorem Adds.grown {host larger : Host} (adds : Adds larger host) : Grown larger host :=
  ⟨adds.workingDirectory, adds.tree.grows⟩

theorem Adds.refl (host : Host) : Adds host host := ⟨rfl, .refl host.tree⟩

theorem Adds.trans {host larger largest : Host} (second : Adds largest larger)
    (first : Adds larger host) : Adds largest host :=
  ⟨second.workingDirectory.trans first.workingDirectory, second.tree.trans first.tree⟩

theorem Grown.leads {host larger : Host} (grown : Grown larger host) {followLast : Bool}
    {path : Text} {place target : FileTree.Place} (leads : Leads host followLast path place)
    (filled : FileTree.Filled larger.tree place target) : Leads larger followLast path target := by
  refine ⟨leads.1, ?_⟩
  rw [grown.workingDirectory]
  exact FileTree.walk_filled grown.tree leads.2 filled

theorem Grown.isDirectory? {host larger : Host} (grown : Grown larger host) {path : Text}
    (present : host.isDirectory? path = true) : larger.isDirectory? path = true := by
  obtain ⟨spot, found⟩ := isDirectory?_iff.mp present
  obtain ⟨leads, isThere⟩ := find_eq_ok_iff.mp found
  refine isDirectory?_iff.mpr ⟨spot, find_eq_ok_iff.mpr ⟨grown.leads leads (.taken spot), ?_⟩⟩
  unfold FileTree.entryAt? at isThere ⊢
  split at isThere
  next inTree => rw [if_pos inTree, grown.tree.directory isThere]
  next lost => rw [if_neg lost]

/-- What was found before is found after additions. -/
theorem Adds.find {host larger : Host} (adds : Adds larger host) {followLast : Bool} {path : Text}
    {found : FileTree.Spot × Entry} (isFound : host.find followLast path = .ok found) :
    larger.find followLast path = .ok found := by
  obtain ⟨spot, entry⟩ := found
  obtain ⟨leads, isThere⟩ := find_eq_ok_iff.mp isFound
  refine find_eq_ok_iff.mpr ⟨adds.grown.leads leads (.taken spot), ?_⟩
  unfold FileTree.entryAt? at isThere ⊢
  split at isThere
  next inTree => rw [if_pos inTree, adds.tree _ _ isThere]
  next lost => rwa [if_neg lost]

/-! ### Making directories -/

/-- The host with an entry placed in its tree. -/
def placed (place : Path) (entry : Entry) (host : Host) : Host :=
  { host with tree := host.tree.place place entry }

theorem lastPlace_eq_ok_iff {path : Text} {host : Host} {place : FileTree.Place} :
    host.lastPlace path = .ok place ↔ Leads host false (Spelling.withoutEndSlashes path) place := by
  rw [← walk_eq_ok_iff, lastPlace]
  rcases host.walk false (Spelling.withoutEndSlashes path) with ⟨⟨⟩⟩ | _ <;> simp

theorem run_makeDirectory (path : Text) (host : Host) :
    (makeDirectory path).run host =
      match host.lastPlace path with
      | .error failure => (.error failure, host)
      | .ok (.taken _) => (.error (refusal .alreadyExists path), host)
      | .ok (.free place _) => (.ok (), placed place .directory host) := by
  rw [makeDirectory, Attempt.run_bind, Attempt.run_require]
  rcases host.lastPlace path with failure | _ | _ <;> rfl

theorem adds_placed {place : Path} {host : Host} (free : host.tree.get? place = none)
    (entry : Entry) : Adds (placed place entry host) host :=
  ⟨rfl, FileTree.includes_place free entry⟩

theorem Leads.free {host : Host} {followLast asDirectory : Bool} {path : Text} {place : Path}
    (leads : Leads host followLast path (.free place asDirectory)) :
    FileTree.IsFree host.tree place := FileTree.walk_free leads.2

theorem exists_of_makeDirectory {path : Text} {host made : Host}
    (ran : (makeDirectory path).run host = (.ok (), made)) :
    ∃ place asDirectory,
      Leads host false (Spelling.withoutEndSlashes path) (.free place asDirectory) ∧
        made = placed place .directory host := by
  rw [run_makeDirectory] at ran
  split at ran
  next => cases ran
  next => cases ran
  next place asDirectory free =>
    exact ⟨place, asDirectory, lastPlace_eq_ok_iff.mp free, (Prod.mk.inj ran).2.symm⟩

theorem eq_of_makeDirectory_error {path : Text} {host reached : Host} {failure : Failure}
    (ran : (makeDirectory path).run host = (.error failure, reached)) : reached = host := by
  rw [run_makeDirectory] at ran
  split at ran
  next => exact (Prod.mk.inj ran).2.symm
  next => exact (Prod.mk.inj ran).2.symm
  next => cases ran

/-- A directory that was made is there. -/
theorem find_of_makeDirectory {path : Text} {host made : Host}
    (tidy : Spelling.withoutEndSlashes path = path)
    (ran : (makeDirectory path).run host = (.ok (), made)) :
    ∃ place asDirectory, Leads host false path (.free place asDirectory) ∧
      made = placed place .directory host ∧
      made.find true path = .ok (FileTree.Spot.at place, .directory) := by
  obtain ⟨place, asDirectory, leads, rfl⟩ := exists_of_makeDirectory ran
  rw [tidy] at leads
  have following : Leads host true path (.free place asDirectory) := by
    refine ⟨leads.1, ?_⟩
    rw [FileTree.walk_following (by rw [leads.2]; rintro spot ⟨⟩), leads.2]
  have isThere := FileTree.get?_place_self host.tree leads.free.below .directory
  have arrives := (adds_placed leads.free.free .directory).grown.leads following
    (.directory asDirectory isThere)
  exact ⟨place, asDirectory, leads, rfl, find_eq_ok_iff.mpr ⟨arrives, isThere⟩⟩

theorem isDirectory?_of_makeDirectory {path : Text} {host made : Host}
    (tidy : Spelling.withoutEndSlashes path = path)
    (ran : (makeDirectory path).run host = (.ok (), made)) : made.isDirectory? path = true := by
  obtain ⟨place, _, _, _, found⟩ := find_of_makeDirectory tidy ran
  exact isDirectory?_iff.mpr ⟨_, found⟩

theorem isDirectory?_of_ensureDirectory {path : Text} {host made : Host}
    (tidy : Spelling.withoutEndSlashes path = path)
    (ran : (ensureDirectory path).run host = (.ok (), made)) : made.isDirectory? path = true := by
  rw [ensureDirectory, Attempt.run_rescue] at ran
  rcases first : (makeDirectory path).run host with ⟨failure | ⟨⟩, reached⟩
  · rw [first] at ran
    dsimp only at ran
    rw [Attempt.run_bind_of_ok (Attempt.run_look _ _)] at ran
    split at ran
    next present =>
      obtain ⟨-, rfl⟩ := Prod.mk.inj ran
      exact present
    next => cases ran
  · rw [first] at ran
    obtain ⟨-, rfl⟩ := Prod.mk.inj ran
    exact isDirectory?_of_makeDirectory tidy first

theorem isDirectory?_of_makeDirectoriesFrom {upward : Nat} {path : Pathname} {host made : Host}
    (tidy : Spelling.withoutEndSlashes path.text = path.text)
    (ran : (makeDirectoriesFrom upward path).run host = (.ok (), made)) :
    made.isDirectory? path.text = true := by
  cases upward with
  | zero => exact isDirectory?_of_makeDirectory tidy ran
  | succ upward =>
      rw [makeDirectoriesFrom, Attempt.run_rescue] at ran
      rcases first : (makeDirectory path.text).run host with ⟨failure | ⟨⟩, reached⟩
      · rw [first] at ran
        dsimp only at ran
        split at ran
        next =>
          split at ran
          next => cases ran
          next =>
            rcases above : (makeDirectoriesFrom upward path.parent).run reached with
              ⟨stopped | ⟨⟩, between⟩
            · rw [Attempt.run_bind_of_error above] at ran
              cases ran
            · rw [Attempt.run_bind_of_ok above] at ran
              exact isDirectory?_of_ensureDirectory tidy ran
        next =>
          rw [Attempt.run_bind_of_ok (Attempt.run_look _ _)] at ran
          split at ran
          next present =>
            obtain ⟨-, rfl⟩ := Prod.mk.inj ran
            exact present
          next => cases ran
      · rw [first] at ran
        obtain ⟨-, rfl⟩ := Prod.mk.inj ran
        exact isDirectory?_of_makeDirectory tidy first

/-- A directory that is there is not made again. -/
theorem run_makeDirectory_of_isDirectory? {path : Text} {host : Host}
    (tidy : Spelling.withoutEndSlashes path = path) (present : host.isDirectory? path = true) :
    (makeDirectory path).run host = (.error (refusal .alreadyExists path), host) := by
  obtain ⟨spot, found⟩ := isDirectory?_iff.mp present
  obtain ⟨leads, -⟩ := find_eq_ok_iff.mp found
  obtain ⟨own, arrives⟩ := FileTree.exists_taken_of_taken leads.2
  have comes : Leads host false path (.taken own) := ⟨leads.1, arrives⟩
  rw [← tidy] at comes
  rw [run_makeDirectory, lastPlace_eq_ok_iff.mpr comes]

/-- Directories that are there are made without any change. -/
theorem run_makeDirectories_of_isDirectory? {path : Pathname} {host : Host}
    (tidy : Spelling.withoutEndSlashes path.text = path.text)
    (present : host.isDirectory? path.text = true) :
    (makeDirectories path).run host = (.ok (), host) := by
  have isThere : (refusal .alreadyExists path.text).isMissingFile = false := rfl
  rw [makeDirectories, makeDirectoriesFrom, Attempt.run_rescue,
    run_makeDirectory_of_isDirectory? tidy present]
  dsimp only
  rw [isThere, if_neg Bool.false_ne_true, Attempt.run_bind_of_ok (Attempt.run_look _ _),
    if_pos present]
  rfl

/-! ### Writing files -/

/-- The ways in which the writing of a file ends: it is refused and changes nothing, or the file is
made at a free place, or put in place of another one. -/
inductive WriteEnd (path : Text) (content : Content) (host : Host) :
    Except Failure Unit × Host → Prop
  | refused {failure : Failure} : WriteEnd path content host (.error failure, host)
  | made {place : Path} (leads : Leads host true path (.free place false)) :
      WriteEnd path content host (.ok (), placed place (.file content) host)
  | replaced {spot : FileTree.Spot} {old : Content} (leads : Leads host true path (.taken spot))
      (present : host.tree.entryAt? spot = some (.file old)) :
      WriteEnd path content host (.ok (), placed spot.path (.file content) host)

theorem writeContent_ends (path : Text) (content : Content) (host : Host) :
    WriteEnd path content host ((writeContent path content).run host) := by
  rw [writeContent]
  split
  next =>
    -- A path that ends with a slash is refused whether or not there is something.
    rw [Attempt.run_bind, Attempt.run_require]
    cases host.lastPlace path with
    | error failure => exact .refused
    | ok place => exact .refused
  next =>
    rw [Attempt.run_bind, Attempt.run_require]
    cases found : host.walk true path with
    | error failure => exact .refused
    | ok place =>
        have leads := walk_eq_ok_iff.mp found
        cases place with
        | free place asDirectory =>
            cases asDirectory with
            | true => exact .refused
            | false => exact .made leads
        | taken spot =>
            dsimp only
            rw [Attempt.run_bind_of_ok (Attempt.run_look _ _)]
            split
            next old present => exact .replaced leads present
            next => exact .refused

/-- What writing a file does: it is found where it was written, nothing but files has changed. -/
theorem find_of_writeContent {path : Text} {content : Content} {host written : Host}
    (ran : (writeContent path content).run host = (.ok (), written)) :
    Grown written host ∧ ∃ spot, written.find true path = .ok (spot, .file content) := by
  have ends := writeContent_ends path content host
  rw [ran] at ends
  cases ends with
  | @made place leads =>
      have isThere := FileTree.get?_place_self host.tree leads.free.below (.file content)
      have adds := adds_placed leads.free.free (.file content)
      have stillLeads := adds.grown.leads leads (.file isThere)
      exact ⟨adds.grown, _, find_eq_ok_iff.mpr ⟨stillLeads, isThere⟩⟩
  | @replaced spot old leads present =>
      obtain ⟨inTree, isFile⟩ := FileTree.get?_of_file present
      have grown : Grown (placed spot.path (.file content) host) host :=
        ⟨rfl, FileTree.grows_place_file isFile content⟩
      have isThere := FileTree.get?_place_self host.tree (FileTree.ne_root_of_file isFile)
        (.file content)
      have stillLeads := grown.leads leads (.taken spot)
      refine ⟨grown, spot, find_eq_ok_iff.mpr ⟨stillLeads, ?_⟩⟩
      rwa [FileTree.entryAt?, if_pos inTree]

/-- A text that is written is there, and it is read back but for its line ends. -/
theorem readText_of_writeText {path text : Text} {host written : Host}
    (ran : (writeText path text).run host = (.ok (), written)) :
    Grown written host ∧ written.isPresent path = .ok true ∧
      written.readText path = .ok (Text.universalNewlines text) := by
  obtain ⟨grown, spot, found⟩ := find_of_writeContent ran
  refine ⟨grown, ?_, ?_⟩
  · rw [isPresent, found]
  · rw [readText, Host.content, found]
    rfl

end CueWatch.Host
