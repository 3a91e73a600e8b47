import CueWatch.Console.Standard
import CueWatch.Proofs.CommandLine.OneShot
import CueWatch.Proofs.CommandLine.SetUp
import Mathlib.Control.Monad.Basic

/-!
Contract: the exit code of a run of requested commands, from the command line on.

Owns:
- the exit code of every run that requests commands on a file that can be read, and the processes
  that it starts, if the flags are text and the path of a file that has been formatted can be read
  as marked text;
- a run that ends without a code.

Does not own: what the commands print, and runs that open the panel.
-/

namespace CueWatch.CommandLine

open Attempt Host

variable {console : Console}

/-- When a run has been set up, its session is on the file as it was located, which can still be
read; and no process has been started. -/
theorem ready_of_setUp {options : Options} {path file text : Text} {host reached : Host}
    {session : Session} (located : host.absolute path = .ok file)
    (readable : host.readText file = .ok text)
    (prepared : (setUp console options file).run host = (.ok session, reached)) :
    (flagged options.flags session).source = file ∧
      (flagged options.flags session).host.readText (flagged options.flags session).source =
        .ok text ∧
      Extends (flagged options.flags session).host host := by
  have extension : Extends reached host := by
    have additive := additive_setUp console options file host
    rwa [prepared] at additive
  obtain ⟨source, own⟩ := session_of_setUp located prepared
  rw [host_flagged, source_flagged, own, source]
  exact ⟨rfl, extension.adds.readText readable, extension⟩

/-- A run that requests commands on a source file that can be read, and for which settings, journal
and session can be set up, ends with the code zero or one: with zero exactly if no command finds the
`cue` program missing and every requested command succeeds. The commands have their turns in order
whether or not those before them have succeeded, and each starts at most one process. -/
theorem exit_code_tells_success {arguments : List Text} {options : Options} {c : Char}
    {rest file text : Text} {terminal : Terminal} {session : Session} {host : Host}
    (parsed : parse arguments = .ok options) (asked : isOneShot options = true)
    (named : options.file = some (c :: rest))
    (located : terminal.host.absolute (c :: rest) = .ok file)
    (readable : terminal.host.readText file = .ok text) (isCue : isSource file = true)
    (calm : terminal.host.Calm)
    (prepared : (setUp console options file).run terminal.host = (.ok session, host))
    (flags : options.flags ≠ some none)
    (sayable : options.fmt = true →
      Session.Command.format.Succeeds ((flagged options.flags session).withSource text) →
        OneShot.Sayable console file)
    (panelEnding : Option Raised) :
    ∃ code ended started,
      (run console arguments panelEnding).run terminal = (.ok (.exited code), ended) ∧
      Account (OneShot.requested options) ((flagged options.flags session).withSource text) code
        started ∧
      ended.host.spawned = terminal.host.spawned ++ started := by
  obtain ⟨sourceKept, stillReadable, extension⟩ := ready_of_setUp located readable prepared
  -- The commands see the host as setting up has left it: with more files, and no process more.
  rw [← sourceKept] at sayable
  obtain ⟨shot, started, ran, account, spawned⟩ :=
    OneShot.exists_of_run (extension.calm calm) stillReadable sayable
  refine ⟨shot.code, terminal.afterOneShot shot, started, ?_, account, ?_⟩
  · rw [run_of_parsed parsed named located (exists?_of_readText readable) isCue]
    exact run_work asked prepared flags ran panelEnding
  · have before : (flagged options.flags session).host.spawned = terminal.host.spawned :=
      congrArg Prod.fst extension.processes
    rw [before] at spawned
    exact spawned

/-- A terminal with one source file, on which the next process complains and the one after it does
not. -/
def complainingTerminal : Terminal where
  host :=
    { tree :=
        ⟨[(["h"], .directory), (["tmp"], .directory), (["w"], .directory),
          (["w", "a.cue"], .file (.text "x: 1"))]⟩
      workingDirectory := FileTree.Spot.root
      environment := [("HOME", "/h")]
      accountHome := none
      programs := [("cue", "/bin/cue")]
      temporary := "/tmp"
      outcomes := [⟨[], none, ⟨[], "expected label", 1⟩⟩]
      spawned := []
      drawn := 0
      journal := [] }
  printed := []
  panels := []

/-- The options that ask for a format and an evaluation of the file. -/
def formatAndEvaluate : Options :=
  { Options.none with file := some "/w/a.cue", fmt := true, eval := true }

/-- A format that fails is not made up for by the evaluation after it. -/
theorem failed_format_is_remembered :
    ∃ session ended started,
      (run (.standard 80) ["/w/a.cue", "--fmt", "--eval"] none).run complainingTerminal =
        (.ok (.exited 1), ended) ∧
      Account [.format, .evaluate (.array []) .null] session 1 started ∧
      ended.host.spawned = started := by
  have parsed : parse ["/w/a.cue", "--fmt", "--eval"] = .ok formatAndEvaluate := by decide +kernel
  have located : complainingTerminal.host.absolute "/w/a.cue" = .ok "/w/a.cue" := by decide +kernel
  have readable : complainingTerminal.host.readText "/w/a.cue" = .ok "x: 1" := by decide +kernel
  have isCue : isSource "/w/a.cue" = true := by decide +kernel
  have calm : complainingTerminal.host.Calm := by
    intro outcome member error refused
    rw [List.mem_singleton.mp member] at refused
    cases refused
  have isSetUp :
      ((setUp (.standard 80) formatAndEvaluate "/w/a.cue").run complainingTerminal.host).1.isOk =
        true := by
    decide +kernel
  have sayable : OneShot.Sayable (.standard 80) "/w/a.cue" :=
    ⟨"Formatted /w/a.cue", by decide +kernel⟩
  rcases prepared : (setUp (.standard 80) formatAndEvaluate "/w/a.cue").run
    complainingTerminal.host with ⟨failure | session, host⟩
  · rw [prepared] at isSetUp
    cases isSetUp
  · obtain ⟨code, ended, started, ran, account, spawned⟩ :=
      exit_code_tells_success parsed rfl rfl located readable isCue calm prepared (by decide)
        (fun _ _ => sayable) none
    have exits :
        ((run (.standard 80) ["/w/a.cue", "--fmt", "--eval"] none).run complainingTerminal).1 =
          .ok (.exited 1) := by decide +kernel
    rw [ran] at exits
    obtain rfl : code = 1 := Ending.exited.inj (Except.ok.inj exits)
    exact ⟨_, ended, started, ran, account, spawned⟩

/-- A terminal with a source file in a directory whose name opens a bracket. -/
def bracketTerminal : Terminal where
  host :=
    { tree :=
        ⟨[(["h"], .directory), (["tmp"], .directory), (["w"], .directory), (["w", "["], .directory),
          (["w", "[", "x].cue"], .file (.text "x: 1"))]⟩
      workingDirectory := FileTree.Spot.root
      environment := [("HOME", "/h")]
      accountHome := none
      programs := [("cue", "/bin/cue")]
      temporary := "/tmp"
      outcomes := []
      spawned := []
      drawn := 0
      journal := [] }
  printed := []
  panels := []

/-- The options that ask for a format of the file. -/
def formatBracket : Options := { Options.none with file := some "/w/[/x].cue", fmt := true }

/-- The file can be read and is formatted, but the run ends without an exit code, because the path
is read as markup that closes what is not open. -/
theorem formatted_without_exit_code :
    parse ["/w/[/x].cue", "--fmt"] = .ok formatBracket ∧
    bracketTerminal.host.absolute "/w/[/x].cue" = .ok "/w/[/x].cue" ∧
    bracketTerminal.host.readText "/w/[/x].cue" = .ok "x: 1" ∧
    isSource "/w/[/x].cue" = true ∧
    bracketTerminal.host.outcomes = [] ∧
    ((setUp (.standard 80) formatBracket "/w/[/x].cue").run bracketTerminal.host).1.isOk = true ∧
    ((run (.standard 80) ["/w/[/x].cue", "--fmt"] none).run bracketTerminal).1 =
      .error (.badMarkup "closing tag '[/x]' at position 13 doesn't match any open tag") ∧
    ((run (.standard 80) ["/w/[/x].cue", "--fmt"] none).run bracketTerminal).2.host.spawned =
      [⟨["/bin/cue", "fmt", "/w/[/x].cue"], some "/w/["⟩] := by
  exact ⟨by decide +kernel, by decide +kernel, by decide +kernel, by decide +kernel, rfl,
    by decide +kernel, by decide +kernel, by decide +kernel⟩

end CueWatch.CommandLine
