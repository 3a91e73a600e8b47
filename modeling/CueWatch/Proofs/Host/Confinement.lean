import CueWatch.Proofs.Host.Temporary

/-!
Contract: where steps touch the file tree, besides what processes do.

Owns:
- `Process`, a process with the host that it is started on, and `Process.Spares`, what it leaves as
  it is;
- `Touches`, which says that from an earlier host to a later one some processes have run, and between
  them nothing has changed outside of some paths (`Still`);
- that writing a file touches only the place that its path leads to;
- `Holds`, a directory that a temporary path leads to, and `Confined`, the later hosts between which
  and an earlier one nothing has been touched outside of that directory;
- that making a directory, or writing a file, one name below the directory is confined, and that
  nothing is left of it when it has been removed.

Does not own: which directory that is (`Scratch`).
-/

namespace CueWatch

open Attempt

theorem Path.isAtOrAbove_refl (path : Path) : path.isAtOrAbove path = true := by
  rw [isAtOrAbove, List.isPrefixOf_iff_prefix]

theorem Path.isAtOrAbove_append (path names : Path) : path.isAtOrAbove (path ++ names) = true := by
  rw [isAtOrAbove, List.isPrefixOf_iff_prefix]
  exact List.prefix_append path names

theorem Path.isAtOrAbove_trans {path middle lower : Path} (first : path.isAtOrAbove middle = true)
    (second : middle.isAtOrAbove lower = true) : path.isAtOrAbove lower = true := by
  rw [isAtOrAbove, List.isPrefixOf_iff_prefix] at first second ⊢
  exact first.trans second

namespace Host

/-! ### Processes, and what is touched between them -/

/-- A process, and the host that it is started on. -/
structure Process where
  moment : Host
  command : Command

namespace Process

/-- The host when the process has ended. -/
def ended (process : Process) : Host :=
  ((spawn process.command.argv process.command.directory).run process.moment).2

/-- A process leaves what stands at a path as it is. -/
def Spares (process : Process) (path : Path) : Prop :=
  process.ended.tree.get? path = process.moment.tree.get? path

theorem outcomes_ended (process : Process) :
    process.ended.outcomes = process.moment.outcomes.tail := by
  rw [ended, run_spawn]
  exact congrArg Prod.snd (keeps_settle _ _)

theorem tree_ended_of_writeless {process : Process}
    (writeless : ∀ outcome ∈ process.moment.outcomes, outcome.writes = []) :
    process.ended.tree = process.moment.tree := by
  have next : (process.moment.outcomes.headD .silent).writes = [] := by
    cases outcomes : process.moment.outcomes with
    | nil => rfl
    | cons outcome rest =>
        rw [outcomes] at writeless
        exact writeless outcome List.mem_cons_self
  rw [ended, run_spawn, settled_of_writeless next, started]

end Process

/-- The file tree of a host and its processes. -/
def standing (host : Host) : FileTree × List Command × List ProcessOutcome :=
  (host.tree, host.processes)

theorem standing_of_unlogged {host later : Host} (same : later.unlogged = host.unlogged) :
    later.standing = host.standing := by
  have standing : later.unlogged.standing = host.unlogged.standing := congrArg Host.standing same
  exact standing

/-- No process has been started since, and outside of some paths nothing has changed. -/
structure Still (inside : Path → Prop) (later host : Host) : Prop where
  processes : later.processes = host.processes
  outside : ∀ path, ¬ inside path → later.tree.get? path = host.tree.get? path

/-- From an earlier host to a later one, processes have run one after the other, and between them
nothing has changed outside of some paths. -/
def Touches (inside : Path → Prop) (later : Host) : List Process → Host → Prop
  | [], host => Still inside later host
  | process :: rest, host =>
      Still inside process.moment host ∧ Touches inside later rest process.ended

namespace Still

variable {inside : Path → Prop} {host later latest : Host}

theorem trans (second : Still inside latest later) (first : Still inside later host) :
    Still inside latest host where
  processes := second.processes.trans first.processes
  outside := fun path outside => (second.outside path outside).trans (first.outside path outside)

theorem mono {wider : Path → Prop} (still : Still inside later host)
    (widens : ∀ path, inside path → wider path) : Still wider later host where
  processes := still.processes
  outside := fun path outside => still.outside path fun isInside => outside (widens path isInside)

theorem refl (inside : Path → Prop) (host : Host) : Still inside host host := ⟨rfl, fun _ _ => rfl⟩

theorem of_standing (same : later.standing = host.standing) : Still inside later host where
  processes := congrArg Prod.snd same
  outside := fun path _ => congrArg (fun tree => tree.get? path) (congrArg Prod.fst same)

theorem of_unlogged (same : later.unlogged = host.unlogged) : Still inside later host :=
  .of_standing (standing_of_unlogged same)

theorem of_placed {place : Path} (isInside : inside place) (entry : Entry) (host : Host) :
    Still inside (placed place entry host) host where
  processes := rfl
  outside := by
    intro path outside
    refine FileTree.get?_place_of_ne ?_ entry
    rintro rfl
    exact outside isInside

end Still

namespace Touches

variable {inside : Path → Prop} {processes more : List Process} {host later latest : Host}

theorem after_still (touches : Touches inside latest processes later)
    (still : Still inside later host) : Touches inside latest processes host := by
  cases processes with
  | nil => exact touches.trans still
  | cons process rest => exact ⟨touches.1.trans still, touches.2⟩

theorem trans (second : Touches inside latest more later)
    (first : Touches inside later processes host) :
    Touches inside latest (processes ++ more) host := by
  induction processes generalizing host with
  | nil => exact second.after_still first
  | cons process rest inductionHypothesis => exact ⟨first.1, inductionHypothesis first.2⟩

theorem before_still (still : Still inside latest later)
    (touches : Touches inside later processes host) : Touches inside latest processes host := by
  have last : Touches inside latest [] later := still
  have ended := last.trans touches
  rwa [List.append_nil] at ended

theorem mono {wider : Path → Prop} (touches : Touches inside later processes host)
    (widens : ∀ path, inside path → wider path) : Touches wider later processes host := by
  induction processes generalizing host with
  | nil => exact Still.mono touches widens
  | cons process rest inductionHypothesis =>
      exact ⟨touches.1.mono widens, inductionHypothesis touches.2⟩

theorem spawned (touches : Touches inside later processes host) :
    later.spawned = host.spawned ++ processes.map Process.command := by
  induction processes generalizing host with
  | nil =>
      rw [List.map_nil, List.append_nil]
      exact congrArg Prod.fst touches.processes
  | cons process rest inductionHypothesis =>
      have before : process.moment.spawned = host.spawned := congrArg Prod.fst touches.1.processes
      rw [inductionHypothesis touches.2, Process.ended, spawned_spawn, before, List.append_assoc]
      rfl

/-- What lies outside and is spared by the processes is as it was. -/
theorem spared (touches : Touches inside later processes host) {path : Path}
    (outside : ¬ inside path) (spares : ∀ process ∈ processes, process.Spares path) :
    later.tree.get? path = host.tree.get? path := by
  induction processes generalizing host with
  | nil => exact touches.outside path outside
  | cons process rest inductionHypothesis =>
      rw [List.forall_mem_cons] at spares
      rw [inductionHypothesis touches.2 spares.2, spares.1, touches.1.outside path outside]

/-- Where no process to come writes files, everything is spared. -/
theorem spares_of_writeless (touches : Touches inside later processes host)
    (writeless : ∀ outcome ∈ host.outcomes, outcome.writes = []) :
    ∀ process ∈ processes, ∀ path, process.Spares path := by
  induction processes generalizing host with
  | nil => exact fun _ member => absurd member List.not_mem_nil
  | cons process rest inductionHypothesis =>
      have same : process.moment.outcomes = host.outcomes := congrArg Prod.snd touches.1.processes
      rw [← same] at writeless
      refine List.forall_mem_cons.mpr ⟨fun path => ?_, inductionHypothesis touches.2 ?_⟩
      · rw [Process.Spares, Process.tree_ended_of_writeless writeless]
      · intro outcome member
        rw [Process.outcomes_ended] at member
        exact writeless outcome (List.mem_of_mem_tail member)

end Touches

/-! ### The place of a file -/

/-- The place that a path leads to: what stands there, or nothing yet. -/
def LeadsTo (host : Host) (path : Text) (place : Path) : Prop :=
  Leads host true path (.taken (FileTree.Spot.at place)) ∨
    ∃ asDirectory, Leads host true path (.free place asDirectory)

/-- Writing a file touches nothing but the place that its path leads to. -/
theorem still_writeContent {path : Text} {content : Content} {host : Host} {inside : Path → Prop}
    (covers : ∀ place, LeadsTo host path place → inside place) :
    Still inside ((writeContent path content).run host).2 host := by
  have ends := writeContent_ends path content host
  generalize (writeContent path content).run host = ended at ends ⊢
  cases ends with
  | refused => exact .refl inside host
  | made leads => exact .of_placed (covers _ (.inr ⟨_, leads⟩)) _ host
  | @replaced spot old leads present =>
      obtain ⟨inTree, -⟩ := FileTree.get?_of_file present
      obtain ⟨place, lost⟩ := spot
      obtain rfl := inTree
      exact .of_placed (covers place (.inl leads)) _ host

/-! ### Processes that are launched -/

/-- What a process does is all that is touched when it is launched. -/
theorem Launches.exists_touches {command? : Option Command} {host later : Host}
    (launches : Launches command? host later) (inside : Path → Prop) :
    ∃ processes, Touches inside later processes host := by
  cases command? with
  | none => exact ⟨[], .of_unlogged launches⟩
  | some command =>
      obtain ⟨moment, begins, ends⟩ := launches
      exact ⟨[⟨moment, command⟩], .of_unlogged begins, .of_unlogged ends⟩

/-! ### A directory that is there -/

/-- A temporary path leads to a directory, in a sound tree. -/
structure Holds (root : Text) (own : Path) (host : Host) : Prop where
  temporary : IsTemporary root
  sound : host.tree.Sound
  below : own ≠ []
  found : ∀ followLast, host.find followLast root = .ok (FileTree.Spot.at own, .directory)

theorem Grown.find_directory {host larger : Host} (grown : Grown larger host) {followLast : Bool}
    {path : Text} {own : Path}
    (found : host.find followLast path = .ok (FileTree.Spot.at own, .directory)) :
    larger.find followLast path = .ok (FileTree.Spot.at own, .directory) := by
  obtain ⟨leads, isThere⟩ := find_eq_ok_iff.mp found
  exact find_eq_ok_iff.mpr ⟨grown.leads leads (.taken _), grown.tree.directory isThere⟩

namespace Holds

variable {root : Text} {own : Path} {host later : Host}

theorem matures (holds : Holds root own host) (matures : Matures later host) :
    Holds root own later where
  temporary := holds.temporary
  sound := matures.sound holds.sound
  below := holds.below
  found := fun followLast => matures.grown.find_directory (holds.found followLast)

theorem isDirectory? (holds : Holds root own host) : host.isDirectory? root = true :=
  isDirectory?_iff.mpr ⟨_, holds.found true⟩

/-- A path one name further leads one name below the directory, if it leads to nothing yet. -/
theorem place_eq (holds : Holds root own host) {name : Text} (plain : Spelling.IsPlain name)
    {followLast asDirectory : Bool} {place : Path}
    (isEnd : FileTree.IsEnd host.tree followLast (own ++ [name]))
    (leads : Leads host followLast (root ++ '/' :: name) (.free place asDirectory)) :
    place = own ++ [name] :=
  FileTree.child_eq_free (leads.child (holds.found true) plain isEnd)

end Holds

/-- A directory is made where nothing was, and then it is there. -/
theorem holds_of_makeDirectory {path : Text} {host made : Host} (sound : host.tree.Sound)
    (temporary : IsTemporary path) (ran : (makeDirectory path).run host = (.ok (), made)) :
    ∃ own asDirectory, Leads host false path (.free own asDirectory) ∧ Holds path own made ∧
      made = placed own .directory host := by
  obtain ⟨own, asDirectory, leads, rfl, following⟩ :=
    find_of_makeDirectory temporary.withoutEndSlashes ran
  have matures : Matures (placed own .directory host) host := matures_placed leads.free
  have isThere := FileTree.get?_place_self host.tree leads.free.below .directory
  have arrives := matures.grown.leads leads (.directory _ isThere)
  refine ⟨own, asDirectory, leads,
    { temporary := temporary
      sound := matures.sound sound
      below := leads.free.below
      found := ?_ }, rfl⟩
  rintro (_ | _)
  · exact find_eq_ok_iff.mpr ⟨arrives, isThere⟩
  · exact following

/-! ### Steps that stay in a directory -/

/-- A later host that has matured, and nothing has been touched outside of the directory at a path,
if it was there. -/
structure Confined (root : Text) (later host : Host) : Prop where
  matures : Matures later host
  touches : ∀ own, Holds root own host →
    ∃ processes, Touches (fun path => own.isAtOrAbove path = true) later processes host

theorem chains_confined (root : Text) : Chains (Confined root) where
  refl := fun host => ⟨chains_matures.refl host, fun _ _ => ⟨[], .refl _ host⟩⟩
  trans := by
    intro host later latest second first
    refine ⟨chains_matures.trans second.matures first.matures, fun own holds => ?_⟩
    obtain ⟨processes, before⟩ := first.touches own holds
    obtain ⟨more, after⟩ := second.touches own (holds.matures first.matures)
    exact ⟨processes ++ more, after.trans before⟩

theorem confined_of_unlogged {root : Text} {host later : Host}
    (same : later.unlogged = host.unlogged) : Confined root later host :=
  ⟨matures_of_unlogged same, fun _ _ => ⟨[], .of_unlogged same⟩⟩

theorem Launches.confined {command? : Option Command} {host later : Host}
    (launches : Launches command? host later) (root : Text) : Confined root later host :=
  ⟨launches.matures, fun _ _ => launches.exists_touches _⟩

/-- Making a directory one name below the directory stays there. -/
theorem confined_makeDirectory {root name : Text} (temporary : IsTemporary (root ++ '/' :: name))
    (plain : Spelling.IsPlain name) :
    Moves (Confined root) (makeDirectory (root ++ '/' :: name)) := by
  intro host
  refine ⟨matures_makeDirectory _ host, fun own holds => ⟨[], ?_⟩⟩
  rcases ran : (makeDirectory (root ++ '/' :: name)).run host with ⟨failure | _, made⟩
  · rw [eq_of_makeDirectory_error ran]
    exact .refl _ host
  · obtain ⟨place, _, leads, rfl⟩ := exists_of_makeDirectory ran
    rw [temporary.withoutEndSlashes] at leads
    rw [holds.place_eq plain (fun _ _ => rfl) leads]
    exact .of_placed (Path.isAtOrAbove_append own [name]) _ host

/-- So does writing a file, if nothing stands under its name. -/
theorem Holds.still_writeContent {root name : Text} {own : Path} {host : Host}
    (holds : Holds root own host) (content : Content) (plain : Spelling.IsPlain name)
    (absent : host.tree.get? (own ++ [name]) = none) :
    Still (fun path => own.isAtOrAbove path = true)
      ((writeContent (root ++ '/' :: name) content).run host).2 host := by
  have isEnd : FileTree.IsEnd host.tree true (own ++ [name]) := FileTree.isEnd_of_free absent
  refine Host.still_writeContent ?_
  rintro place (leads | ⟨asDirectory, leads⟩)
  · have taken := leads.child (holds.found true) plain isEnd
    exact absurd taken (FileTree.child_ne_taken absent _)
  · rw [holds.place_eq plain isEnd leads]
    exact Path.isAtOrAbove_append own [name]

/-! ### Removing the directory -/

theorem removeTree_of_holds {root : Text} {own : Path} {host : Host} (holds : Holds root own host) :
    host.removeTree root = host.pruneAt own := by
  rw [removeTree, holds.found false]
  exact if_pos rfl

/-- When the directory has been removed, nothing is left of it, and all else is as it was. -/
theorem still_removeTree {root : Text} {own : Path} {host : Host} (holds : Holds root own host) :
    Still (fun path => own.isAtOrAbove path = true) (host.removeTree root) host ∧
      ∀ path, own.isAtOrAbove path = true → (host.removeTree root).tree.get? path = none := by
  have tree : ∀ path, (host.removeTree root).tree.get? path =
      if path = [] then some .directory
      else if own.isAtOrAbove path then none else host.tree.get? path := by
    intro path
    rw [removeTree_of_holds holds]
    exact FileTree.get?_prune host.tree own path
  refine ⟨⟨processes_removeTree root host, fun path outside => ?_⟩, fun path isInside => ?_⟩
  · rw [tree, if_neg outside]
    by_cases top : path = []
    · rw [if_pos top, top]
      rfl
    · exact if_neg top
  · have below : path ≠ [] := by
      rintro rfl
      rw [Path.isAtOrAbove, List.isPrefixOf_iff_prefix, List.prefix_nil] at isInside
      exact holds.below isInside
    rw [tree, if_neg below, if_pos isInside]

end Host

end CueWatch
