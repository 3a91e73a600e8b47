import CueWatch.Journal.Setup
import CueWatch.Proofs.Host.Confinement
import CueWatch.Proofs.Path.Ancestry

/-!
Contract: what setting the journal up does to the host.

Owns:
- how the opening of a log file and the setting up of the journal end;
- that setting the journal up is additive, and that it touches the log file only, if the directory
  of the log file is there.

Does not own: the records (`Journal.Record`).
-/

namespace CueWatch.Journal

open Attempt Host

variable (console : Console)

/-- Opening a log file ends with the making of the directories above it, or makes the file where
none can be read. -/
theorem openFile_ends (path : Text) (host : Host) :
    ((openFile path).run host).2 =
        ((makeDirectories (Pathname.ofText path).parent).run host).2 ∨
      ∃ made place, (makeDirectories (Pathname.ofText path).parent).run host = (.ok (), made) ∧
        made.absolute path = .ok place ∧ (∀ old, made.content place ≠ .ok old) ∧
        ((openFile path).run host).2 = ((writeText place []).run made).2 := by
  rw [openFile]
  rcases isMade : (makeDirectories (Pathname.ofText path).parent).run host with
    ⟨failure | _, made⟩
  · rw [run_bind_of_error isMade]
    exact .inl rfl
  · rw [run_bind_of_ok isMade]
    cases located : made.absolute path with
    | error failure =>
        have required : (Attempt.require (absolute path)).run made = (.error failure, made) :=
          congrArg (·, made) located
        rw [run_bind_of_error required]
        exact .inl rfl
    | ok place =>
        have required : (Attempt.require (absolute path)).run made = (.ok place, made) :=
          congrArg (·, made) located
        rw [run_bind_of_ok required, run_bind_of_ok (run_look _ made)]
        cases there : made.content place with
        | ok content => exact .inl rfl
        | error failure =>
            dsimp only
            split
            next =>
              have kept : Keeps id (Pure.pure place : Attempt Host Text) := Keeps.pure place
              refine .inr ⟨made, place, rfl, located, ?_, view_run_bind _ (fun _ => kept) made⟩
              rw [there]
              exact nofun
            next => exact .inl rfl

theorem fileHandler_ends (logFile : Option Text) (host : Host) :
    ((fileHandler console logFile).run host).2 = host ∨
      ∃ path, logFile = some path ∧
        ((fileHandler console logFile).run host).2 = ((openFile path).run host).2 := by
  unfold fileHandler
  split
  next => exact .inl rfl
  next => exact .inl rfl
  next path _ =>
    refine .inr ⟨path, rfl,
      @view_run_bind _ _ _ _ id (openFile path).outcome _ (fun opened => ?_) host⟩
    cases opened with
    | ok place => exact Keeps.pure _
    | error failure =>
        exact Keeps.ite (Keeps.bind (Keeps.ofExcept _) fun _ => Keeps.pure _) (Keeps.fail failure)

/-- Nothing is done to the host for the journal but that its file is opened. -/
theorem configure_ends (level : Settings.Value) (logFile : Option Text) (toConsole : Bool)
    (host : Host) :
    ((configure console level logFile toConsole).run host).2 = host ∨
      ∃ path, logFile = some path ∧
        ((configure console level logFile toConsole).run host).2 =
          ((openFile path).run host).2 := by
  rw [configure]
  cases threshold level with
  | error failure => exact .inl rfl
  | ok level =>
      rw [ofExcept_bind_ok]
      refine (fileHandler_ends console logFile host).imp (Eq.trans ?_) fun ⟨path, isPath, ends⟩ =>
        ⟨path, isPath, Eq.trans ?_ ends⟩
      -- What follows the handler does nothing to the host.
      all_goals
        refine @view_run_bind _ _ _ _ id (fileHandler console logFile) _ (fun _ => ?_) host
        exact Keeps.bind (Keeps.ofExcept _) fun _ => Keeps.pure _

/-- Setting the journal up moves along a relation along which directories are made, and files are
where none can be read. -/
theorem moves_configure {relation : Host → Host → Prop} (chains : Chains relation)
    (making : ∀ path, Moves relation (makeDirectory path))
    (writing : ∀ path host, (∀ old, host.content path ≠ .ok old) →
      relation ((writeText path []).run host).2 host)
    (level : Settings.Value) (logFile : Option Text) (toConsole : Bool) :
    Moves relation (configure console level logFile toConsole) := by
  have opening : ∀ path, Moves relation (openFile path) := by
    intro path host
    have above := moves_makeDirectories chains making (Pathname.ofText path).parent host
    rcases openFile_ends path host with ends | ⟨made, place, isMade, -, absent, ends⟩
    · rw [ends]
      exact above
    · rw [isMade] at above
      rw [ends]
      exact chains.trans (writing place made absent) above
  intro host
  rcases configure_ends console level logFile toConsole host with ends | ⟨path, -, ends⟩
  · rw [ends]
    exact chains.refl host
  · rw [ends]
    exact opening path host

theorem additive_configure (level : Settings.Value) (logFile : Option Text) (toConsole : Bool) :
    Additive (configure console level logFile toConsole) :=
  moves_configure console chains_extends additive_makeDirectory
    (fun _ _ absent => extends_writeContent (.text []) absent) level logFile toConsole

theorem matures_configure (level : Settings.Value) (logFile : Option Text) (toConsole : Bool) :
    Moves Matures (configure console level logFile toConsole) :=
  moves_configure console chains_matures matures_makeDirectory
    (fun path host _ => matures_writeContent path (.text []) host) level logFile toConsole

/-! ### The place of the log file -/

/-- The place that a log file has or will have: where its absolute path leads. -/
def IsLogPlace (path : Text) (host : Host) (place : Path) : Prop :=
  ∃ log, host.absolute path = .ok log ∧ host.LeadsTo log place

/-- Setting the journal up touches the log file only, in a directory that is there. -/
theorem still_configure {directory : Pathname} {name : Text} {host : Host}
    (tidy : directory.IsTidy) (isName : Pathname.isIdle name = false ∧ '/' ∉ name)
    (isThere : host.isDirectory? directory.text = true) (level : Settings.Value)
    (toConsole : Bool) :
    Still (IsLogPlace (directory.child name).text host)
      ((configure console level (some (directory.child name).text) toConsole).run host).2 host := by
  have speaks : ((directory.child name).root.isEmpty && (directory.child name).parts.isEmpty) =
      false := by
    simp [Pathname.child]
  have parent : (Pathname.ofText (directory.child name).text).parent = directory := by
    rw [(tidy.child isName).ofText_text speaks, Pathname.parent, Pathname.child]
    dsimp only
    rw [List.dropLast_concat]
  have unchanged := run_makeDirectories_of_isDirectory? tidy.withoutEndSlashes isThere
  rcases configure_ends console level _ toConsole host with ends | ⟨path, same, ends⟩
  · rw [ends]
    exact .refl _ host
  · obtain rfl := Option.some.inj same
    rw [ends]
    rcases openFile_ends (directory.child name).text host with
      ends | ⟨made, log, isMade, located, absent, ends⟩
    · rw [ends, parent, unchanged]
      exact .refl _ host
    · rw [parent, unchanged] at isMade
      obtain ⟨-, rfl⟩ := Prod.mk.inj isMade
      rw [ends, writeText]
      exact Host.still_writeContent fun place leads => ⟨log, located, leads⟩

end CueWatch.Journal
