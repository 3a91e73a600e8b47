import CueWatch.Console.Standard
import CueWatch.Proofs.CommandLine.OneShot
import CueWatch.Proofs.CommandLine.SetUp
import CueWatch.Proofs.Session.Confinement

/-!
Contract: what a run of requested commands leaves behind in the file tree.

Owns:
- that the requested commands stay in the scratch directory, and that nothing is left of it after
  their run;
- what setting up leaves, whether or not it fails;
- `Leaves`, what is left when a run has ended, and that every run leaves no more than that.

Does not own: the exit code (`CommandLine.ExitCode`), and runs that open the panel.
-/

namespace CueWatch.CommandLine

open Attempt Host

variable {console : Console}

/-! ### The requested commands -/

namespace OneShot

/-- A later run whose session is confined to its scratch directory. -/
def Confined (later shot : OneShot) : Prop := Session.Confined later.session shot.session

theorem chains_confined : Chains Confined where
  refl := fun shot => Session.chains_confined.refl shot.session
  trans := Session.chains_confined.trans

theorem confined_onSession {α : Type} {step : Attempt Session α}
    (moves : Moves Session.Confined step) : Moves Confined (onSession step) :=
  fun shot => moves shot.session

theorem confined_print (text : Text) : Moves Confined (print text) :=
  fun shot => Session.chains_confined.refl shot.session

theorem confined_markFailed : Moves Confined markFailed :=
  fun shot => Session.chains_confined.refl shot.session

theorem confined_format (console : Console) : Moves Confined (format console) := by
  refine chains_confined.bind (confined_onSession Session.confined_format) fun _ => ?_
  refine chains_confined.bind (chains_confined.look _) fun session => Moves.ite ?_ ?_
  · exact chains_confined.bind (chains_confined.ofExcept _) fun _ => confined_print _
  · exact chains_confined.bind (confined_print _) fun _ => confined_markFailed

theorem confined_lint (console : Console) : Moves Confined (lint console) := by
  refine chains_confined.bind (confined_onSession Session.confined_lint) fun _ => ?_
  refine chains_confined.bind (chains_confined.look _) fun state => Moves.ite ?_ ?_
  · exact chains_confined.bind (confined_print _) fun _ => confined_markFailed
  · refine chains_confined.bind (fun shot => ?_) fun _ =>
      Moves.ite confined_markFailed (confined_print _)
    obtain ⟨printed, shown⟩ := run_showLines console state.diagnostics shot
    rw [shown]
    exact Session.chains_confined.refl shot.session

theorem confined_eval (console : Console) (expressions : List OptionValue)
    (outType : Option OptionValue) :
    Moves Confined (eval console expressions outType) := by
  refine chains_confined.bind (confined_onSession (Session.confined_evaluate _ _)) fun file => ?_
  refine chains_confined.bind (chains_confined.look _) fun state => ?_
  cases file with
  | none => exact chains_confined.bind (confined_print _) fun _ => confined_markFailed
  | some _ => exact fun shot => Session.chains_confined.refl shot.session

/-- A command that is carried out only if a condition holds. -/
theorem confined_optional {condition : Prop} [Decidable condition] {step : Attempt OneShot Unit}
    {next : Unit → Attempt OneShot Unit} (first : Moves Confined step)
    (later : Moves Confined (next ())) :
    Moves Confined (if condition then step >>= next else next ()) :=
  Moves.ite (chains_confined.bind first fun _ => later) later

theorem confined_commands (console : Console) (options : Options) :
    Moves Confined (commands console options) := by
  refine chains_confined.bind (confined_onSession Session.confined_reloadSource) fun _ => ?_
  refine confined_optional (confined_format console) (confined_optional (confined_lint console) ?_)
  exact Moves.ite (confined_eval console options.expressions options.out) (chains_confined.pure ())

theorem confined_commandsOrComplaint (console : Console) (options : Options) :
    Moves Confined (commandsOrComplaint console options) := by
  refine chains_confined.rescue (confined_commands console options) fun failure => ?_
  refine Moves.ite (chains_confined.bind (fun shot => ?_) fun _ => confined_markFailed)
    (chains_confined.fail failure)
  exact Session.chains_confined.refl shot.session

/-- A run of the requested commands touches nothing outside of its scratch directory but by
processes, and then nothing is left of it. -/
theorem touches_run (console : Console) (options : Options) {session : Session} {own : Path}
    (holds : Holds session.scratch.root own session.host) :
    ∃ processes,
      Touches (fun path => own.isAtOrAbove path = true)
        ((run console options).run ⟨session, [], 0⟩).2.session.host processes session.host ∧
      ∀ path, own.isAtOrAbove path = true →
        ((run console options).run ⟨session, [], 0⟩).2.session.host.tree.get? path = none := by
  have confined := confined_commandsOrComplaint console options ⟨session, [], 0⟩
  rw [run, run_ensuring]
  generalize (commandsOrComplaint console options).run ⟨session, [], 0⟩ = ended at confined ⊢
  obtain ⟨outcome, shot⟩ := ended
  have sameScratch : shot.session.scratch = session.scratch := confined.scratch
  have cleaned : (cleanup.run shot).2.session.host =
      (session.scratch.cleanup.run shot.session.host).2 := by
    rw [← sameScratch]
    rfl
  obtain ⟨processes, touches⟩ := confined.host.touches own holds
  obtain ⟨still, gone⟩ := Scratch.still_cleanup (holds.matures confined.host.matures)
  dsimp only
  rw [cleaned]
  exact ⟨processes, touches.before_still still, gone⟩

end OneShot

/-! ### Setting up -/

/-- The place of the log file of a run. -/
abbrev IsLog (settings : Settings.Store) (host : Host) : Path → Prop :=
  Journal.IsLogPlace (logFile settings) host

section

variable {settings : Settings.Store} {host loaded : Host}
  (load : (Settings.Store.load none).run host = (.ok settings, loaded))

include load

theorem still_configure (console : Console) (options : Options) :
    Still (IsLog settings loaded)
      ((Journal.configure console settings.logLevel (some (logFile settings)) options.verbose).run
        loaded).2 loaded := by
  obtain ⟨tidy, isThere⟩ := Settings.Store.directory_of_load load
  exact Journal.still_configure console tidy (by decide) isThere settings.logLevel options.verbose

/-- When a run cannot be set up after its settings have been loaded, only the log file has been
touched. -/
theorem still_of_setUp_error {options : Options} {file : Text} {flags : List Settings.Value}
    {failure : Failure} {reached : Host} (listed : settings.lintFlags = .ok flags)
    (failed : (setUp console options file).run host = (.error failure, reached)) :
    Still (IsLog settings loaded) reached loaded := by
  have still := still_configure load console options
  rw [setUp, run_bind_of_ok load] at failed
  rcases configure : (Journal.configure console settings.logLevel (some (logFile settings))
    options.verbose).run loaded with ⟨stopped | setup, configured⟩
  · rw [configure] at still
    rw [run_bind_of_error configure] at failed
    obtain ⟨-, rfl⟩ := Prod.mk.inj failed
    exact still
  · rw [configure] at still
    rw [run_bind_of_ok configure, run_bind, run_require] at failed
    cases folder : workspaceFolder options.workspace configured with
    | error stopped =>
        rw [folder] at failed
        obtain ⟨-, rfl⟩ := Prod.mk.inj failed
        exact still
    | ok workspace =>
        rw [folder] at failed
        exact (Session.still_of_create_error listed failed _).trans still

/-- When a run has been set up, there is a new scratch directory, and only the log file has been
touched besides. -/
theorem exists_scratch_of_setUp {options : Options} {file : Text} {session : Session}
    {made : Host} (sound : host.tree.Sound)
    (prepared : (setUp console options file).run host = (.ok session, made)) :
    ∃ own, Holds session.scratch.root own made ∧
      Still (fun path => IsLog settings loaded path ∨ own.isAtOrAbove path = true) made loaded ∧
      ∀ path, own.isAtOrAbove path = true → loaded.tree.get? path = none := by
  obtain ⟨_, _, setup, configured, workspace, again, configure, -, created⟩ :=
    exists_of_setUp prepared
  rw [load] at again
  obtain ⟨same, rfl⟩ := Prod.mk.inj again
  obtain rfl := Except.ok.inj same
  have loading := Settings.Store.matures_load none host
  have still := still_configure load console options
  have matures := Journal.matures_configure console settings.logLevel (some (logFile settings))
    options.verbose loaded
  have adds := (Journal.additive_configure console settings.logLevel (some (logFile settings))
    options.verbose loaded).adds
  rw [load] at loading
  rw [configure] at still matures adds
  obtain ⟨own, holds, stillMade, free⟩ :=
    Session.exists_scratch_of_create (matures.sound (loading.sound sound)) created
  refine ⟨own, holds, ?_, fun path isInside => ?_⟩
  · exact (stillMade.mono fun path => .inr).trans (still.mono fun path => .inl)
  · -- What has been there when the settings were loaded is still there.
    cases present : loaded.tree.get? path with
    | none => rfl
    | some entry =>
        have isThere := adds.tree path entry present
        rw [free path isInside] at isThere
        cases isThere

end

/-! ### Runs -/

/-- Where a run may touch the file tree itself: at the log file, and at places where nothing was when
the settings had been loaded and nothing is left. -/
def IsPassing (settings : Settings.Store) (loaded ended : Host) (path : Path) : Prop :=
  IsLog settings loaded path ∨ loaded.tree.get? path = none ∧ ended.tree.get? path = none

/-- A run has had a scratch directory only where nothing was, and nothing is left of it. -/
def IsCleared (console : Console) (options : Options) (file : Text)
    (before loaded ended : Host) : Prop :=
  ∀ session made, (setUp console options file).run before = (.ok session, made) →
    ∃ own, made.find false session.scratch.root = .ok (FileTree.Spot.at own, .directory) ∧
      ∀ path, own.isAtOrAbove path = true →
        loaded.tree.get? path = none ∧ ended.tree.get? path = none

/-- What a run has left when it has ended, compared with the host before and with the host on which
its settings have just been loaded: nothing of its scratch directory, whatever processes have written
there; between processes it has touched nothing that stays but the log file; and what the processes
spare is as it was. Loading has made directories at most, so that the file of settings, like every
other that is not the log file, holds what it held before. -/
structure Leaves (console : Console) (options : Options) (file : Text)
    (settings : Settings.Store) (before loaded : Host) (processes : List Process) (ended : Host) :
    Prop where
  spawned : ended.spawned = before.spawned ++ processes.map Process.command
  touches : Touches (IsPassing settings loaded ended) ended processes loaded
  scratch : IsCleared console options file before loaded ended
  spared : ∀ path, ¬ IsLog settings loaded path → (∀ process ∈ processes, process.Spares path) →
    ended.tree.get? path = loaded.tree.get? path
  directories : Settings.Store.Furnishes loaded before
  files : ∀ path, ¬ IsLog settings loaded path → (∀ process ∈ processes, process.Spares path) →
    ended.tree.fileAt? path = before.tree.fileAt? path

/-- It is enough to say where a run has touched the file tree, and that nothing is left of its scratch
directory. -/
theorem leaves_of_touches {options : Options} {file : Text} {settings : Settings.Store}
    {before loaded ended : Host} {processes : List Process}
    (load : (Settings.Store.load none).run before = (.ok settings, loaded))
    (touches : Touches (IsPassing settings loaded ended) ended processes loaded)
    (scratch : IsCleared console options file before loaded ended) :
    Leaves console options file settings before loaded processes ended := by
  have loading := (Settings.Store.additive_load none before).processes
  have directories := Settings.Store.furnishes_load none before
  rw [load] at loading directories
  have sameSpawned : loaded.spawned = before.spawned := congrArg Prod.fst loading
  have spared : ∀ path, ¬ IsLog settings loaded path →
      (∀ process ∈ processes, process.Spares path) →
        ended.tree.get? path = loaded.tree.get? path := by
    intro path notLog spares
    by_cases passing : loaded.tree.get? path = none ∧ ended.tree.get? path = none
    · rw [passing.1, passing.2]
    · exact touches.spared (fun inside => inside.elim notLog passing) spares
  refine
    { spawned := by rw [touches.spawned, sameSpawned]
      touches := touches
      scratch := scratch
      spared := spared
      directories := directories
      files := fun path notLog spares => ?_ }
  rw [FileTree.fileAt?, spared path notLog spares]
  exact directories.fileAt? path

/-- A run that is set up touches what passes, and clears its scratch directory. -/
theorem exists_touches_of_setUp {options : Options} {file given : Text} {terminal : Terminal}
    {settings : Settings.Store} {loaded made ended : Host} {session : Session}
    {panelEnding : Option Raised} (asked : isOneShot options = true)
    (located : terminal.host.absolute given = .ok file) (sound : terminal.host.tree.Sound)
    (load : (Settings.Store.load none).run terminal.host = (.ok settings, loaded))
    (separated : options.flags ≠ some none)
    (prepared : (setUp console options file).run terminal.host = (.ok session, made))
    (ends : ((work console options file panelEnding).run terminal).2.host = ended) :
    ∃ processes, Touches (IsPassing settings loaded ended) ended processes loaded ∧
      IsCleared console options file terminal.host loaded ended := by
  obtain ⟨own, holds, still, free⟩ := exists_scratch_of_setUp load sound prepared
  -- The commands see the session with the flags of the command line, and the host as it is now.
  have sameHost : (flagged options.flags session).host = made := by
    rw [host_flagged]
    exact (session_of_setUp located prepared).2
  have holdsThen : Holds (flagged options.flags session).scratch.root own
      (flagged options.flags session).host := by
    rw [sameHost, scratch_flagged]
    exact holds
  obtain ⟨processes, touches, gone⟩ := OneShot.touches_run console options holdsThen
  rcases ran : (OneShot.run console options).run ⟨flagged options.flags session, [], 0⟩ with
    ⟨outcome, shot⟩
  rw [ran, sameHost] at touches
  rw [ran] at gone
  rw [run_work asked prepared separated ran] at ends
  subst ends
  refine ⟨processes, ?_, ?_⟩
  · refine Touches.after_still ?_ (still.mono fun path inside => ?_)
    · exact touches.mono fun path inside => .inr ⟨free path inside, gone path inside⟩
    · exact inside.imp_right fun inside => ⟨free path inside, gone path inside⟩
  · intro other made begins
    rw [prepared] at begins
    obtain ⟨same, rfl⟩ := Prod.mk.inj begins
    obtain rfl := Except.ok.inj same
    exact ⟨own, holds.found false, fun path inside => ⟨free path inside, gone path inside⟩⟩

/-- Where no process writes files, nothing has changed but the log file. -/
theorem Leaves.unchanged {options : Options} {file : Text} {settings : Settings.Store}
    {before loaded ended : Host} {processes : List Process}
    (leaves : Leaves console options file settings before loaded processes ended)
    (writeless : ∀ outcome ∈ loaded.outcomes, outcome.writes = []) {path : Path}
    (notLog : ¬ IsLog settings loaded path) : ended.tree.get? path = loaded.tree.get? path :=
  leaves.spared path notLog fun process member =>
    leaves.touches.spares_of_writeless writeless process member path

/-- Every run that requests commands on a source file that is there leaves nothing behind, however it
ends, once its settings have been loaded; unless the flags in the settings are no list, or the
separator was given as the value of the flags on the command line. -/
theorem leaves_nothing_behind {arguments : List Text} {options : Options} {c : Char}
    {rest file : Text} {terminal : Terminal} {settings : Settings.Store} {loaded : Host}
    {flags : List Settings.Value} (parsed : parse arguments = .ok options)
    (asked : isOneShot options = true) (named : options.file = some (c :: rest))
    (located : terminal.host.absolute (c :: rest) = .ok file)
    (isThere : terminal.host.exists? file = true) (isCue : isSource file = true)
    (sound : terminal.host.tree.Sound)
    (load : (Settings.Store.load none).run terminal.host = (.ok settings, loaded))
    (listed : settings.lintFlags = .ok flags) (given : options.flags ≠ some none)
    (panelEnding : Option Raised) :
    ∃ processes, Leaves console options file settings terminal.host loaded processes
      ((run console arguments panelEnding).run terminal).2.host := by
  rw [run_of_parsed parsed named located isThere isCue]
  rcases prepared : (setUp console options file).run terminal.host with ⟨failure | session, made⟩
  · have still := still_of_setUp_error load listed prepared
    rw [host_work_of_setUp_error asked prepared]
    refine ⟨[], leaves_of_touches load (still.mono fun path => .inl) ?_⟩
    intro session made begins
    rw [prepared] at begins
    cases begins
  · obtain ⟨processes, touches, cleared⟩ :=
      exists_touches_of_setUp asked located sound load given prepared rfl
    exact ⟨processes, leaves_of_touches load touches cleared⟩

/-- A host with one source file in a module, and a file of settings. -/
def hostToLint (settings : Text) (outcomes : List ProcessOutcome) : Host where
  tree :=
    ⟨[(["h"], .directory), (["h", ".cuebolt"], .directory),
      (["h", ".cuebolt", "config.json"], .file (.text settings)), (["tmp"], .directory),
      (["w"], .directory), (["w", "cue.mod"], .directory),
      (["w", "a.cue"], .file (.text "x: 1"))]⟩
  workingDirectory := FileTree.Spot.root
  environment := [("HOME", "/h")]
  accountHome := none
  programs := [("cue", "/bin/cue")]
  temporary := "/tmp"
  outcomes := outcomes
  spawned := []
  drawn := 0
  journal := []

/-- The options that ask for a lint of the file. -/
def lintOnly : Options := { Options.none with file := some "/w/a.cue", lint := true }

/-- The user interrupts a process that has written a file to the scratch directory. -/
def interruption : ProcessOutcome :=
  ⟨[("/tmp/cuebolt-00000001/notes", .text "half")],
    some ⟨"KeyboardInterrupt", .interrupt, []⟩, ⟨[], [], 0⟩⟩

/-- A terminal on which the next process is interrupted. -/
def interruptedTerminal : Terminal :=
  ⟨hostToLint "\x7b\"lint_flags\": [\"-t\"]\x7d" [interruption], [], []⟩

/-- An interruption ends the run without an exit code, but with nothing left behind. -/
theorem interrupted_run_leaves_nothing :
    ∃ settings loaded processes ended,
      (run (.standard 80) ["/w/a.cue", "--lint"] none).run interruptedTerminal =
        (.error (.raised ⟨"KeyboardInterrupt", .interrupt, []⟩), ended) ∧
      Leaves (.standard 80) lintOnly "/w/a.cue" settings interruptedTerminal.host loaded processes
        ended.host ∧
      ended.host.spawned.length = 1 ∧
      ended.host.tree.get? ["tmp", "cuebolt-00000001"] = none ∧
      ended.host.tree.fileAt? ["h", ".cuebolt", "config.json"] =
        interruptedTerminal.host.tree.fileAt? ["h", ".cuebolt", "config.json"] := by
  have parsed : parse ["/w/a.cue", "--lint"] = .ok lintOnly := by decide +kernel
  have located : interruptedTerminal.host.absolute "/w/a.cue" = .ok "/w/a.cue" := by decide +kernel
  have isThere : interruptedTerminal.host.exists? "/w/a.cue" = true := by decide +kernel
  have isCue : isSource "/w/a.cue" = true := by decide +kernel
  have sound : interruptedTerminal.host.tree.Sound :=
    FileTree.sound_of_entries (by decide +kernel)
  have isListed : (((Settings.Store.load none).run interruptedTerminal.host).1.bind
      Settings.Store.lintFlags).isOk = true := by decide +kernel
  have ends : ((run (.standard 80) ["/w/a.cue", "--lint"] none).run interruptedTerminal).1 =
      .error (.raised ⟨"KeyboardInterrupt", .interrupt, []⟩) := by decide +kernel
  have spawned : ((run (.standard 80) ["/w/a.cue", "--lint"] none).run
      interruptedTerminal).2.host.spawned.length = 1 := by decide +kernel
  have gone : ((run (.standard 80) ["/w/a.cue", "--lint"] none).run
      interruptedTerminal).2.host.tree.get? ["tmp", "cuebolt-00000001"] = none := by decide +kernel
  have kept : ((run (.standard 80) ["/w/a.cue", "--lint"] none).run
      interruptedTerminal).2.host.tree.fileAt? ["h", ".cuebolt", "config.json"] =
        interruptedTerminal.host.tree.fileAt? ["h", ".cuebolt", "config.json"] := by
    decide +kernel
  rcases load : (Settings.Store.load none).run interruptedTerminal.host with
    ⟨failure | settings, loaded⟩
  · rw [load] at isListed
    cases isListed
  · rw [load] at isListed
    cases listed : settings.lintFlags with
    | error failure =>
        have isError : settings.lintFlags.isOk = true := isListed
        rw [listed] at isError
        cases isError
    | ok flags =>
        obtain ⟨processes, leaves⟩ := leaves_nothing_behind parsed rfl rfl located isThere isCue
          sound load listed (by decide) none
        rcases ran : (run (.standard 80) ["/w/a.cue", "--lint"] none).run interruptedTerminal with
          ⟨outcome, ended⟩
        rw [ran] at ends spawned gone kept leaves
        exact ⟨settings, loaded, processes, ended, Prod.ext ends rfl, leaves, spawned,
          gone, kept⟩

/-- A terminal whose settings hold no list of flags. -/
def truthTerminal : Terminal := ⟨hostToLint "\x7b\"lint_flags\": true\x7d" [], [], []⟩

/-- Flags that are no list end the run after the scratch directory has been made, which stays. -/
theorem scratch_stays_behind :
    parse ["/w/a.cue", "--lint"] = .ok lintOnly ∧
    truthTerminal.host.absolute "/w/a.cue" = .ok "/w/a.cue" ∧
    truthTerminal.host.exists? "/w/a.cue" = true ∧ isSource "/w/a.cue" = true ∧
    ((Settings.Store.load none).run truthTerminal.host).1.isOk = true ∧
    truthTerminal.host.tree.get? ["tmp", "cuebolt-00000001"] = none ∧
    ((run (.standard 80) ["/w/a.cue", "--lint"] none).run truthTerminal).1.isOk = false ∧
    ((run (.standard 80) ["/w/a.cue", "--lint"] none).run truthTerminal).2.host.spawned = [] ∧
    ((run (.standard 80) ["/w/a.cue", "--lint"] none).run truthTerminal).2.host.tree.get?
      ["tmp", "cuebolt-00000001"] = some .directory := by
  exact ⟨by decide +kernel, by decide +kernel, by decide +kernel, by decide +kernel,
    by decide +kernel, by decide +kernel, by decide +kernel, by decide +kernel, by decide +kernel⟩

end CueWatch.CommandLine
