import CueWatch.CommandLine.Run
import CueWatch.Proofs.Journal.LogFile
import CueWatch.Proofs.Session.Creation
import CueWatch.Proofs.Settings.Directory

/-!
Contract: what happens before the commands of a run: settings are loaded, the journal is set up, and
a session is begun.

Owns:
- `setUp`, these steps as one, and that they are additive;
- the session that they begin: on the file as it was named, which is as readable as before;
- `flagged`, the session with the flags of the command line;
- that a run which is set up is the run of the requested commands, unless the flags are no text, and
  that one which is not set up does no more.

Does not own: the parts (`Settings.Directory`, `Journal.LogFile`, `Session.Creation`) and the commands
(`CommandLine.OneShot`).
-/

namespace CueWatch.CommandLine

open Attempt Host

variable {console : Console}

/-! ### Setting up -/

/-- Loads the settings, sets the journal up, and begins a session on a file. -/
def setUp (console : Console) (options : Options) (file : Text) : Attempt Host Session := do
  let settings ← Settings.Store.load none
  let _ ← Journal.configure console settings.logLevel (some (logFile settings)) options.verbose
  let workspace ← Attempt.require (workspaceFolder options.workspace)
  Session.create file settings workspace

theorem additive_setUp (console : Console) (options : Options) (file : Text) :
    Additive (setUp console options file) := by
  refine Additive.bind (Settings.Store.additive_load none) fun settings => ?_
  refine Additive.bind (Journal.additive_configure console _ _ _) fun _ => ?_
  refine Additive.bind (Additive.require _) fun workspace => ?_
  exact Session.additive_create file settings workspace

/-- Setting up in its parts. -/
theorem exists_of_setUp {options : Options} {file : Text} {host reached : Host} {session : Session}
    (prepared : (setUp console options file).run host = (.ok session, reached)) :
    ∃ settings loaded setup configured workspace,
      (Settings.Store.load none).run host = (.ok settings, loaded) ∧
      (Journal.configure console settings.logLevel (some (logFile settings)) options.verbose).run
        loaded = (.ok setup, configured) ∧
      workspaceFolder options.workspace configured = .ok workspace ∧
      (Session.create file settings workspace).run configured = (.ok session, reached) := by
  obtain ⟨settings, loaded, load, prepared⟩ := run_bind_eq_ok_iff.mp prepared
  obtain ⟨setup, configured, configure, prepared⟩ := run_bind_eq_ok_iff.mp prepared
  obtain ⟨workspace, _, looked, created⟩ := run_bind_eq_ok_iff.mp prepared
  obtain ⟨folder, rfl⟩ := Prod.mk.inj looked
  exact ⟨settings, loaded, setup, configured, workspace, load, configure, folder, created⟩

/-- The session that is begun is on the file as it was located. -/
theorem session_of_setUp {options : Options} {path file : Text} {host reached : Host}
    {session : Session} (located : host.absolute path = .ok file)
    (prepared : (setUp console options file).run host = (.ok session, reached)) :
    session.source = file ∧ session.host = reached := by
  obtain ⟨_, _, _, configured, _, -, -, -, created⟩ := exists_of_setUp prepared
  obtain ⟨source, own⟩ := Session.source_of_create created
  -- The path was made absolute before, by the host as it was then.
  rw [absolute_of_absolute located configured] at source
  exact ⟨(Except.ok.inj source).symm, own⟩

/-! ### From setting up to the commands -/

/-- A session with the flags of the command line, if there are any. -/
def flagged (flags : Option OptionValue) (session : Session) : Session :=
  match flags with
  | some (some text) => { session with lintFlags := .array (Cue.words (Text.words text)) }
  | _ => session

/-- Flags are taken over, unless the separator was given as their value. -/
theorem withFlags_eq {flags : Option OptionValue} (given : flags ≠ some none) (session : Session) :
    withFlags flags session = .ok (flagged flags session) := by
  rcases flags with _ | _ | text
  · rfl
  · exact absurd rfl given
  · rfl

theorem host_flagged (flags : Option OptionValue) (session : Session) :
    (flagged flags session).host = session.host := by
  rcases flags with _ | _ | text <;> rfl

theorem source_flagged (flags : Option OptionValue) (session : Session) :
    (flagged flags session).source = session.source := by
  rcases flags with _ | _ | text <;> rfl

theorem scratch_flagged (flags : Option OptionValue) (session : Session) :
    (flagged flags session).scratch = session.scratch := by
  rcases flags with _ | _ | text <;> rfl

theorem Terminal.run_onHost {α : Type} {step : Attempt Host α} {terminal : Terminal}
    {outcome : Except Failure α} {host : Host} (ran : step.run terminal.host = (outcome, host)) :
    (Terminal.onHost step).run terminal = (outcome, { terminal with host := host }) := by
  rw [Terminal.onHost, run_within, ran]

/-- The terminal after the requested commands. -/
def Terminal.afterOneShot (terminal : Terminal) (shot : OneShot) : Terminal :=
  { terminal with host := shot.session.host, printed := terminal.printed ++ shot.printed }

theorem run_runOnce {options : Options} {file : Text} {settings : Settings.Store}
    {workspace : Option Text} {terminal : Terminal} {session : Session} {host : Host}
    {outcome : Except Failure Unit} {shot : OneShot} (given : options.flags ≠ some none)
    (created : (Session.create file settings workspace).run terminal.host = (.ok session, host))
    (ran : (OneShot.run console options).run ⟨flagged options.flags session, [], 0⟩ =
      (outcome, shot)) :
    (runOnce console options file settings workspace).run terminal =
      (outcome.map fun _ => .exited shot.code, terminal.afterOneShot shot) := by
  have taken : ∀ terminal : Terminal,
      (Attempt.ofExcept (withFlags options.flags session) : Attempt Terminal Session).run terminal =
        (.ok (flagged options.flags session), terminal) := by
    intro terminal
    rw [run_ofExcept, withFlags_eq given]
  have own : (flagged options.flags session).host = host := by
    rw [host_flagged]
    exact (Session.source_of_create created).2
  have begins :
      OneShot.run console options ⟨{ flagged options.flags session with host := host }, [], 0⟩ =
        (outcome, shot) := by
    rw [← own]
    exact ran
  rw [runOnce, run_bind_of_ok (Terminal.run_onHost created)]
  refine (run_bind_of_ok (taken _)).trans ?_
  unfold Attempt.run
  dsimp only
  rw [begins]
  rfl

/-- Once a run is set up, what is left to do is the run of the requested commands. -/
theorem exists_runOnce_of_work {options : Options} {file : Text} {terminal : Terminal}
    {session : Session} {host : Host} (asked : isOneShot options = true)
    (prepared : (setUp console options file).run terminal.host = (.ok session, host))
    (panelEnding : Option Raised) :
    ∃ settings workspace configured,
      (Session.create file settings workspace).run configured = (.ok session, host) ∧
      (work console options file panelEnding).run terminal =
        (runOnce console options file settings workspace).run
          { terminal with host := configured } := by
  obtain ⟨settings, loaded, setup, configured, workspace, load, configure, folder, created⟩ :=
    exists_of_setUp prepared
  refine ⟨settings, workspace, configured, created, ?_⟩
  rw [work, run_bind_of_ok (Terminal.run_onHost load),
    run_bind_of_ok (Terminal.run_onHost configure), run_bind_of_ok (run_look _ _)]
  dsimp only
  rw [folder, ofExcept_bind_ok, if_pos asked]

/-- A run that is not set up leaves the host as setting up does. -/
theorem host_work_of_setUp_error {options : Options} {file : Text} {terminal : Terminal}
    {failure : Failure} {reached : Host} (asked : isOneShot options = true)
    (failed : (setUp console options file).run terminal.host = (.error failure, reached))
    (panelEnding : Option Raised) :
    ((work console options file panelEnding).run terminal).2.host = reached := by
  rw [setUp] at failed
  rw [work]
  rcases load : (Settings.Store.load none).run terminal.host with ⟨stopped | settings, loaded⟩
  · rw [run_bind_of_error load] at failed
    rw [run_bind_of_error (Terminal.run_onHost load)]
    exact (Prod.mk.inj failed).2
  · rw [run_bind_of_ok load] at failed
    rw [run_bind_of_ok (Terminal.run_onHost load)]
    rcases configure : (Journal.configure console settings.logLevel (some (logFile settings))
      options.verbose).run loaded with ⟨stopped | setup, configured⟩
    · rw [run_bind_of_error configure] at failed
      rw [run_bind_of_error (Terminal.run_onHost configure)]
      exact (Prod.mk.inj failed).2
    · rw [run_bind_of_ok configure, run_bind, run_require] at failed
      rw [run_bind_of_ok (Terminal.run_onHost configure), run_bind_of_ok (run_look _ _)]
      dsimp only at failed ⊢
      cases folder : workspaceFolder options.workspace configured with
      | error stopped =>
          rw [folder] at failed
          rw [run_bind_of_error (run_ofExcept _ _)]
          exact (Prod.mk.inj failed).2
      | ok workspace =>
          rw [folder] at failed
          rw [ofExcept_bind_ok, if_pos asked, runOnce,
            run_bind_of_error (Terminal.run_onHost failed)]

/-- A run that is set up ends with the code of the requested commands. -/
theorem run_work {options : Options} {file : Text} {terminal : Terminal} {session : Session}
    {host : Host} {outcome : Except Failure Unit} {shot : OneShot}
    (asked : isOneShot options = true)
    (prepared : (setUp console options file).run terminal.host = (.ok session, host))
    (given : options.flags ≠ some none)
    (ran : (OneShot.run console options).run ⟨flagged options.flags session, [], 0⟩ =
      (outcome, shot))
    (panelEnding : Option Raised) :
    (work console options file panelEnding).run terminal =
      (outcome.map fun _ => .exited shot.code, terminal.afterOneShot shot) := by
  obtain ⟨settings, workspace, configured, created, same⟩ :=
    exists_runOnce_of_work asked prepared panelEnding
  rw [same]
  exact run_runOnce given created ran

/-- A run on a file that is there is the work on it. -/
theorem run_of_parsed {arguments : List Text} {options : Options} {c : Char} {rest file : Text}
    {terminal : Terminal} (parsed : parse arguments = .ok options)
    (named : options.file = some (c :: rest))
    (located : terminal.host.absolute (c :: rest) = .ok file)
    (isThere : terminal.host.exists? file = true) (isCue : isSource file = true)
    (panelEnding : Option Raised) :
    (run console arguments panelEnding).run terminal =
      (work console options file panelEnding).run terminal := by
  rw [run, parsed]
  dsimp only
  rw [runOptions, named]
  dsimp only
  rw [run_bind_of_ok (run_look _ _), located, ofExcept_bind_ok, run_bind_of_ok (run_look _ _),
    isThere, isCue]
  rfl

end CueWatch.CommandLine
