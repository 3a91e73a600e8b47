import CueWatch.Cue
import CueWatch.Proofs.Host.Processes
import Mathlib.Data.List.Basic

/-!
Contract: the processes of the `cue` program, told from the arguments it is called with.

Owns:
- `Does`, the processes of one kind;
- the arguments that are texts, the paths that are programs, and the values that name a format;
- `command?`, the process of a call, with `evalCommand?` and `vetCommand?`;
- `run_words`, which says what a call with texts comes to;
- that a call starts the process that is told from it, and does nothing else to the host but for the
  journal.

Does not own: how the words of an evaluation are chosen and what is answered (`Evaluation`), and that
nothing but a process interrupts a call (`Proofs.Session.Processes`).
-/

namespace CueWatch

open Attempt

/-- A value names a format only as its name. -/
theorem OutType.eq_of_ofValue? {value : Settings.Value} {format : OutType}
    (names : OutType.ofValue? value = some format) : value = .text format.name := by
  cases value with
  | text t =>
      have named := List.find?_some names
      rw [decide_eq_true_eq] at named
      rw [named]
  | _ => cases names

theorem OutType.ofValue?_name (format : OutType) : ofValue? (.text format.name) = some format := by
  cases format <;> decide

namespace Cue

/-! ### Arguments that are texts -/

theorem words_inj {texts others : List Text} (same : words texts = words others) :
    texts = others :=
  List.map_injective_iff.mpr (fun _ _ same => Settings.Value.text.inj same) same

theorem map_shown_words (texts : List Text) :
    (words texts).map Settings.Value.shown = texts := by
  rw [words, List.map_map]
  exact List.map_id texts

theorem argumentStrings_words (position : Nat) (texts : List Text) :
    argumentStrings position (words texts) = .ok (texts.map .text) := by
  induction texts generalizing position with
  | nil => rfl
  | cons text texts inductionHypothesis =>
      have later := inductionHypothesis (position + 1)
      rw [words] at later ⊢
      rw [List.map_cons, argumentStrings, later]
      rfl

theorem argumentTexts_map_text (texts : List Text) :
    argumentTexts (texts.map .text) = .ok texts := by
  induction texts with
  | nil => rfl
  | cons text texts inductionHypothesis =>
      rw [List.map_cons, argumentTexts, inductionHypothesis]
      rfl

theorem map_shown_map_text (texts : List Text) :
    (texts.map Settings.Key.text).map Settings.Key.shown = texts := by
  rw [List.map_map]
  exact List.map_id texts

theorem eq_map_ofKey_of_argumentStrings {position : Nat} {arguments : List Settings.Value}
    {strings : List Settings.Key} (told : argumentStrings position arguments = .ok strings) :
    arguments = strings.map Settings.Value.ofKey := by
  fun_induction argumentStrings position arguments generalizing strings with
  | case1 =>
      obtain rfl := Except.ok.inj told
      rfl
  | case2 position text rest inductionHypothesis | case3 position text rest inductionHypothesis =>
      cases later : argumentStrings (position + 1) rest with
      | error failure =>
          rw [later] at told
          cases told
      | ok strings =>
          rw [later] at told
          obtain rfl := Except.ok.inj told
          rw [inductionHypothesis later]
          rfl
  | case4 => cases told

theorem eq_map_text_of_argumentTexts {strings : List Settings.Key} {texts : List Text}
    (written : argumentTexts strings = .ok texts) : strings = texts.map .text := by
  fun_induction argumentTexts strings generalizing texts with
  | case1 =>
      obtain rfl := Except.ok.inj written
      rfl
  | case2 text rest inductionHypothesis =>
      cases later : argumentTexts rest with
      | error failure =>
          rw [later] at written
          cases written
      | ok texts =>
          rw [later] at written
          obtain rfl := Except.ok.inj written
          rw [inductionHypothesis later]
          rfl
  | case3 => cases written

/-! ### Processes -/

/-- Whether a command of the `cue` program is one of those that a word names. -/
def Does (word : Text) (command : Command) : Prop := command.argv[1]? = some word

/-- The process that is started for arguments: there is a program, and the arguments are texts. -/
def command? (cue : Cue) (arguments : List Settings.Value) (directory : Option Text) :
    Option Command :=
  match cue.usable, (argumentStrings 0 arguments).bind argumentTexts with
  | some program, .ok texts => some ⟨program :: texts, directory⟩
  | _, _ => none

theorem exists_of_command? {cue : Cue} {arguments : List Settings.Value} {directory : Option Text}
    {command : Command} (ready : cue.command? arguments directory = some command) :
    ∃ program texts, cue.usable = some program ∧ arguments = words texts ∧
      command = ⟨program :: texts, directory⟩ := by
  unfold command? at ready
  split at ready
  next program texts found written =>
    cases told : argumentStrings 0 arguments with
    | error failure =>
        rw [told] at written
        cases written
    | ok strings =>
        rw [told] at written
        refine ⟨program, texts, found, ?_, (Option.some.inj ready).symm⟩
        rw [eq_map_ofKey_of_argumentStrings told, eq_map_text_of_argumentTexts written,
          List.map_map]
        rfl
  next => cases ready

/-- A process is of the kind that its first argument names. -/
theorem does_of_command? {cue : Cue} {word : Text} {arguments : List Settings.Value}
    {directory : Option Text} {command : Command}
    (ready : cue.command? (.text word :: arguments) directory = some command) :
    Does word command := by
  obtain ⟨program, texts, -, written, rfl⟩ := exists_of_command? ready
  cases texts with
  | nil => cases written
  | cons text rest =>
      obtain ⟨same, -⟩ := List.cons.inj written
      obtain rfl := Settings.Value.text.inj same
      rfl

theorem Does.word_eq {word other : Text} {command : Command} (does : Does word command)
    (doesToo : Does other command) : word = other :=
  Option.some.inj (Eq.trans (Eq.symm does) doesToo)

theorem path_of_usable {cue : Cue} {program : Text} (found : cue.usable = some program) :
    cue.path = some program := by
  unfold usable at found
  split at found
  next c rest path => rw [path, found]
  next => cases found

theorem usable_eq_some {cue : Cue} {program : Text} (path : cue.path = some program)
    (named : program ≠ []) : cue.usable = some program := by
  obtain ⟨c, rest, rfl⟩ := List.exists_cons_of_ne_nil named
  rw [usable, path]

theorem usable_eq_none {cue : Cue} (unknown : ∀ program, cue.path = some program → program = []) :
    cue.usable = none := by
  unfold usable
  split
  next c rest path => cases unknown _ path
  next => rfl

theorem command?_of_unusable {cue : Cue} (unusable : cue.usable = none)
    (arguments : List Settings.Value) (directory : Option Text) :
    cue.command? arguments directory = none := by
  rw [command?, unusable]

/-- The host on which a call has been noted. -/
def noted (arguments : List Text) (directory : Option Text) (host : Host) : Host :=
  { host with
    journal := host.journal ++
      [⟨.info, "cue " ++ Text.join " " arguments ++ " --- cwd=" ++ directory.getD "None"⟩] }

/-- A call with a program and texts as arguments is noted, and then its process is started. -/
theorem run_words {cue : Cue} {program : Text} (found : cue.usable = some program)
    (arguments : List Text) (directory : Option Text) (host : Host) :
    (cue.run (.array (words arguments)) directory).run host =
      ((Host.spawn (program :: arguments) directory).rescue fun failure =>
        Attempt.fail (missing failure)).run (noted arguments directory host) := by
  rw [run, found]
  dsimp only
  rw [Settings.Value.spread, Settings.Value.items?, ofExcept_bind_ok, argumentStrings_words,
    ofExcept_bind_ok, map_shown_map_text, argumentTexts_map_text]
  rfl

/-- A run starts what is told by the program and the arguments, and nothing else happens to the host
but for the journal. -/
theorem launches_run (cue : Cue) (arguments : List Settings.Value) (directory : Option Text)
    (host : Host) :
    Host.Launches (cue.command? arguments directory) host
      ((cue.run (.array arguments) directory).run host).2 := by
  rw [command?, run]
  cases cue.usable with
  | none => rfl
  | some program =>
      dsimp only
      rw [Settings.Value.spread, Settings.Value.items?, ofExcept_bind_ok]
      cases argumentStrings 0 arguments with
      | error failure => rfl
      | ok strings =>
          rw [ofExcept_bind_ok]
          have given : (Except.ok strings).bind argumentTexts = argumentTexts strings := rfl
          rw [given]
          cases argumentTexts strings with
          | error failure => rfl
          | ok texts =>
              have complaint : ∀ failure, Keeps Host.unlogged
                  (Attempt.fail (missing failure) : Attempt Host ProcessResult) :=
                fun failure => Keeps.fail _
              refine ⟨_, ?_, view_run_rescue (Host.spawn (program :: texts) directory) complaint _⟩
              rfl

/-- Checking the code of a process does nothing to the host. -/
theorem launches_runChecked (cue : Cue) (arguments : List Settings.Value)
    (directory : Option Text) (host : Host) :
    Host.Launches (cue.command? arguments directory) host
      ((cue.runChecked arguments directory).run host).2 := by
  have checked : ∀ result : ProcessResult, Keeps Host.unlogged
      (if result.code = 0 then pure result
        else Attempt.fail (.commandFailed (arguments.map Settings.Value.shown) result.stderr
          result.code) : Attempt Host ProcessResult) :=
    fun result => Keeps.ite (Keeps.pure result) (Keeps.fail _)
  exact (cue.launches_run arguments directory host).of_unlogged rfl (view_run_bind _ checked host)

/-- The process of an evaluation: the type is one. -/
def evalCommand? (cue : Cue) (file : Text) (expressions : List Settings.Value)
    (outType : Settings.Value) (directory : Option Text) : Option Command :=
  match OutType.ofValue? outType with
  | some format => cue.command? (evalArguments file expressions format) directory
  | none => none

theorem launches_eval (cue : Cue) (file : Text) (expressions : List Settings.Value)
    (outType : Settings.Value) (directory : Option Text) (host : Host) :
    Host.Launches (cue.evalCommand? file expressions outType directory) host
      ((cue.eval file (.array expressions) outType directory).run host).2 := by
  rw [evalCommand?, eval]
  cases OutType.ofValue? outType with
  | none => rfl
  | some format =>
      have printed : ∀ result : ProcessResult,
          Keeps Host.unlogged (pure result.stdout : Attempt Host Text) := fun _ => Keeps.pure _
      dsimp only
      rw [Settings.Value.items, Settings.Value.items?, ofExcept_bind_ok]
      exact (cue.launches_runChecked _ directory host).of_unlogged rfl (view_run_bind _ printed host)

/-- The process of a lint in a directory. -/
def vetCommand? (cue : Cue) (file : Text) (flags : Settings.Value) (directory : Option Text) :
    Option Command :=
  match flags.spread with
  | .ok flags => cue.command? (words ["vet", file] ++ flags ++ words [concreteFlag]) directory
  | .error _ => none

theorem launches_vet (cue : Cue) (file : Text) (flags : Settings.Value) (directory : Option Text)
    (host : Host) :
    Host.Launches (cue.vetCommand? file flags directory) host
      ((cue.vet file flags directory).run host).2 := by
  rw [vetCommand?, vet]
  cases flags.spread with
  | error failure => rfl
  | ok flags => exact cue.launches_run _ directory host

end Cue

end CueWatch
