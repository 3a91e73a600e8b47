import CueWatch.Proofs.Session.Request
import Mathlib.Control.Monad.Basic

/-!
Contract: what is left of a save of the file when it has been dealt with.

Owns:
- the failures to read a file that the file system does not report;
- `SaveEscapes`, the failures that a save does not deal with;
- that every other save ends well, with one notice to the listener, and with what kept the file from
  being read or linted in the status.

Does not own: which events count as a save (`Watch.SaveHandler`).
-/

namespace CueWatch

/-! ### Files that cannot be read -/

/-- A file is not read although the file system has nothing to complain of: it is no text, or no file
can have the path. -/
def Failure.IsIllegible (failure : Failure) : Prop :=
  (∃ fault, failure = .undecodable fault) ∨ failure = .nullInPath

theorem Host.find_error {followLast : Bool} {path : Text} {host : Host} {failure : Failure}
    (failed : host.find followLast path = .error failure) :
    failure = .nullInPath ∨ failure.isSystem = true := by
  unfold find at failed
  split at failed
  next => exact .inl (Except.error.inj failed).symm
  next =>
    split at failed
    next => cases failed
    next =>
      obtain rfl := Except.error.inj failed
      exact .inr rfl

theorem Host.readText_error {path : Text} {host : Host} {failure : Failure}
    (failed : host.readText path = .error failure) :
    failure.IsIllegible ∨ failure.isSystem = true := by
  unfold readText content at failed
  cases found : host.find true path with
  | error reason =>
      rw [found] at failed
      obtain rfl := Except.error.inj failed
      exact (find_error found).imp_left .inr
  | ok entry =>
      rw [found] at failed
      obtain ⟨spot, _ | content | _⟩ := entry
      · obtain rfl := Except.error.inj failed
        exact .inr rfl
      · dsimp only at failed
        split at failed
        next => cases failed
        next fault _ =>
          obtain rfl := Except.error.inj failed
          exact .inl (.inl ⟨fault, rfl⟩)
      · obtain rfl := Except.error.inj failed
        exact .inr rfl

theorem Failure.IsIllegible.notSystem {failure : Failure} (illegible : failure.IsIllegible) :
    failure.isSystem = false := by
  rcases illegible with ⟨fault, rfl⟩ | rfl
  · rfl
  · rfl

theorem Failure.isCueMissing_of_isSystem {failure : Failure} (system : failure.isSystem = true) :
    failure.isCueMissing = false := by
  cases failure with
  | cueMissing _ => cases system
  | _ => rfl

theorem Failure.IsIllegible.isCueMissing {failure : Failure} (illegible : failure.IsIllegible) :
    failure.isCueMissing = false := by
  rcases illegible with ⟨fault, rfl⟩ | rfl
  · rfl
  · rfl

namespace Session

open Attempt

/-! ### Ways in which a save goes on -/

/-- The session after the listener has been told. -/
def noticed (session : Session) : Session := (notify.run session).2

/-- The session with another message in the status. -/
def withMessage (message : Text) (session : Session) : Session :=
  { session with state := session.state.withStatus message }

section Runs

variable {path : Text} {session : Session}

/-- A file that cannot be read is told of, unless it is illegible. -/
theorem run_saved_of_error {failure : Failure}
    (unread : session.host.readText session.source = .error failure) :
    (saved path).run session =
      if failure.isSystem then
        (.ok (), ((session.notedSave path).withMessage
          ("Failed to read file, error: " ++ failure.message)).noticed)
      else (.error failure, session.notedSave path) := by
  have reading : reloadSource.run (session.notedSave path) =
      (.error failure, session.notedSave path) := run_reloadSource_of_error unread
  have found : failure.isCueMissing = false := by
    rcases Host.readText_error unread with illegible | system
    · exact illegible.isCueMissing
    · exact Failure.isCueMissing_of_isSystem system
  change (savedBody.rescue _).run (session.notedSave path) = _
  rw [run_rescue, savedBody, run_bind_of_error reading]
  dsimp only
  rw [found, if_neg Bool.false_ne_true]
  split
  next => rfl
  next => rfl

/-- What a save makes of its lint: a missing `cue` program is told of. -/
def lintOnSave (session : Session) : Except Failure Unit × Session :=
  match lint.run session with
  | (.ok _, linted) => (.ok (), linted)
  | (.error failure, linted) =>
      if failure.isCueMissing then (.ok (), (linted.withMessage failure.message).noticed)
      else if failure.isSystem then
        (.ok (), (linted.withMessage ("Failed to read file, error: " ++ failure.message)).noticed)
      else (.error failure, linted)

/-- A file that can be read is linted if the settings say so. -/
theorem run_saved_of_ok {text : Text}
    (read : session.host.readText session.source = .ok text) :
    (saved path).run session =
      if session.settings.lintOnSave then ((session.notedSave path).withSource text).lintOnSave
      else (.ok (), ((session.notedSave path).withSource text).noticed) := by
  have reading : reloadSource.run (session.notedSave path) =
      (.ok (), (session.notedSave path).withSource text) := run_reloadSource_of_ok read
  have asked : (Attempt.look fun session : Session => session.settings.lintOnSave).run
      ((session.notedSave path).withSource text) =
      (.ok session.settings.lintOnSave, (session.notedSave path).withSource text) := rfl
  change (savedBody.rescue _).run (session.notedSave path) = _
  rw [run_rescue, savedBody, run_bind_of_ok reading, run_bind_of_ok asked]
  by_cases onSave : session.settings.lintOnSave
  · simp only [if_pos onSave, Session.lintOnSave]
    rcases lint.run ((session.notedSave path).withSource text) with ⟨failure | _, linted⟩
    · dsimp only
      split
      next => rfl
      next =>
        split
        next => rfl
        next => rfl
    · rfl
  · simp only [if_neg onSave]
    rfl

theorem lintedFrom?_saved_of_ok (path : Text) {text : Text}
    (read : session.host.readText session.source = .ok text) :
    (Request.saved path).lintedFrom? session =
      if session.settings.lintOnSave then some ((session.notedSave path).withSource text)
      else none := by
  have reading : reloadSource.run (session.notedSave path) =
      (.ok (), (session.notedSave path).withSource text) := run_reloadSource_of_ok read
  rw [Request.lintedFrom?, reloadedForLint?, reading]
  rfl

theorem lintedFrom?_saved_of_error (path : Text) {failure : Failure}
    (unread : session.host.readText session.source = .error failure) :
    (Request.saved path).lintedFrom? session = none := by
  have reading : reloadSource.run (session.notedSave path) =
      (.error failure, session.notedSave path) := run_reloadSource_of_error unread
  rw [Request.lintedFrom?, reloadedForLint?, reading]

/-! ### How a lint ends -/

theorem run_lint_of_ok {reached : Session}
    (succeeded : lintBody.run session.begun = (.ok (), reached)) :
    lint.run session = (.ok (), reached.noticed) := by
  have performed : (perform .lint () lintBody).run session.notedLint =
      (.ok (), reached.noticed) := run_perform_of_ok succeeded
  exact performed

theorem run_lint_of_error {reached : Session} {failure : Failure}
    (failed : lintBody.run session.begun = (.error failure, reached)) :
    lint.run session =
      if escapes failure then (.error failure, reached)
      else (.ok (), ((report .lint failure).run reached).2.noticed) := by
  have performed : (perform .lint () lintBody).run session.notedLint =
      if escapes failure then (.error failure, reached)
      else (.ok (), ((report .lint failure).run reached).2.noticed) :=
    run_perform_of_error failed
  exact performed

end Runs

/-- How often the listener has been told, and whether there is one. -/
def tidings (session : Session) : Nat × Bool := (session.notices, session.hasListener)

theorem keeps_tidings_lintBody : Keeps tidings lintBody :=
  keeps_lintBody (fun _ _ => rfl) fun _ _ _ _ _ _ => rfl

/-- The listener, if there is one, has been told once since a session. -/
def NoticedOnce (session later : Session) : Prop :=
  later.notices = if session.hasListener then session.notices + 1 else session.notices

theorem noticedOnce_noticed {session reached : Session}
    (same : reached.tidings = session.tidings) : NoticedOnce session reached.noticed := by
  have notices : reached.notices = session.notices := congrArg Prod.fst same
  have hasListener : reached.hasListener = session.hasListener := congrArg Prod.snd same
  change (if reached.hasListener then reached.notices + 1 else reached.notices) = _
  rw [notices, hasListener]

/-- What the status says about a failure of the lint on save. -/
def lintComplaint (failure : Failure) : Text :=
  if failure.isCueMissing then failure.message else failureMessage .lint failure

/-- A lint on save that is not interrupted ends well. If it fails, the status says why. -/
theorem lintOnSave_of_error {session reached : Session} {failure : Failure}
    (failed : lintBody.run session.begun = (.error failure, reached)) :
    (failure.isInterrupt = true → session.lintOnSave = (.error failure, reached)) ∧
    (failure.isInterrupt = false → ∃ told : Session, told.tidings = reached.tidings ∧
      told.state.statusMessage = lintComplaint failure ∧
      session.lintOnSave = (.ok (), told.noticed)) := by
  have ends := run_lint_of_error failed
  unfold escapes at ends
  rw [Session.lintOnSave, ends, lintComplaint]
  constructor
  · intro interrupts
    have found : failure.isCueMissing = false := by
      cases failure with
      | cueMissing _ => cases interrupts
      | _ => rfl
    have ordinary : failure.isSystem = false := by
      cases failure with
      | raised error =>
          have family : error.family = .interrupt := by simpa [Failure.isInterrupt] using interrupts
          simp [Failure.isSystem, family]
      | _ => cases interrupts
    simp [interrupts, found, ordinary]
  · intro ordinary
    by_cases missing : failure.isCueMissing = true
    · refine ⟨reached.withMessage failure.message, rfl, ?_, ?_⟩
      · rw [if_pos missing]
        rfl
      · simp [missing]
    · refine ⟨((report .lint failure).run reached).2, rfl, ?_, ?_⟩
      · rw [if_neg missing]
        rfl
      · simp [missing, ordinary]

theorem lintOnSave_of_ok {session reached : Session}
    (succeeded : lintBody.run session.begun = (.ok (), reached)) :
    session.lintOnSave = (.ok (), reached.noticed) := by
  rw [Session.lintOnSave, run_lint_of_ok succeeded]

/-! ### Every save -/

/-- The failures that a save does not deal with: the file is illegible, or the user interrupts the
process of the lint. -/
def SaveEscapes (path : Text) (session : Session) (failure : Failure) : Prop :=
  (session.host.readText session.source = .error failure ∧ failure.IsIllegible) ∨
  ∃ linted, (Request.saved path).lintedFrom? session = some linted ∧
    (lintBody.run linted.begun).1 = .error failure ∧ failure.isInterrupt = true

/-- What a save that has been dealt with leaves: one notice to the listener, and a status that says
why the file was not read, or why it was not linted. -/
structure SaveNoticed (path : Text) (session later : Session) : Prop where
  once : NoticedOnce session later
  unread : ∀ failure, session.host.readText session.source = .error failure →
    later.state.statusMessage = "Failed to read file, error: " ++ failure.message
  unlinted : ∀ linted failure, (Request.saved path).lintedFrom? session = some linted →
    (lintBody.run linted.begun).1 = .error failure →
    later.state.statusMessage = lintComplaint failure

/-- The ways in which a save ends. -/
inductive SaveEnd (path : Text) (session : Session) : Except Failure Unit × Session → Prop
  | escaped {failure : Failure} {reached : Session} (escapes : SaveEscapes path session failure)
      (only : ∀ other, SaveEscapes path session other → other = failure) :
      SaveEnd path session (.error failure, reached)
  | dealt {later : Session} (none : ∀ failure, ¬ SaveEscapes path session failure)
      (noticed : SaveNoticed path session later) : SaveEnd path session (.ok (), later)

theorem saveEscapes_of_error_iff {path : Text} {session : Session} {failure other : Failure}
    (unread : session.host.readText session.source = .error failure) :
    SaveEscapes path session other ↔ other = failure ∧ failure.IsIllegible := by
  constructor
  · rintro (⟨same, illegible⟩ | ⟨linted, begun, -⟩)
    · obtain rfl := Except.error.inj (unread.symm.trans same)
      exact ⟨rfl, illegible⟩
    · rw [lintedFrom?_saved_of_error path unread] at begun
      cases begun
  · rintro ⟨rfl, illegible⟩
    exact .inl ⟨unread, illegible⟩

theorem saveEnd_of_error {path : Text} {session : Session} {failure : Failure}
    (unread : session.host.readText session.source = .error failure) :
    SaveEnd path session ((saved path).run session) := by
  have escapes_iff : ∀ other, SaveEscapes path session other ↔
      other = failure ∧ failure.IsIllegible := fun _ => saveEscapes_of_error_iff unread
  rw [run_saved_of_error unread]
  by_cases system : failure.isSystem = true
  · rw [if_pos system]
    refine .dealt (fun other escapes => ?_) ⟨noticedOnce_noticed rfl, ?_, ?_⟩
    · have notSystem := ((escapes_iff other).mp escapes).2.notSystem
      rw [notSystem] at system
      cases system
    · intro other same
      obtain rfl := Except.error.inj (unread.symm.trans same)
      rfl
    · intro linted other begun
      rw [lintedFrom?_saved_of_error path unread] at begun
      cases begun
  · rw [if_neg system]
    have illegible := (Host.readText_error unread).resolve_right system
    exact .escaped ((escapes_iff failure).mpr ⟨rfl, illegible⟩)
      fun other escapes => ((escapes_iff other).mp escapes).1

section

variable {path text : Text} {session : Session}
  (read : session.host.readText session.source = .ok text)

include read

theorem saveEscapes_of_ok_iff {other : Failure} :
    SaveEscapes path session other ↔
      ∃ linted, (Request.saved path).lintedFrom? session = some linted ∧
        (lintBody.run linted.begun).1 = .error other ∧ other.isInterrupt = true := by
  constructor
  · rintro (⟨unread, -⟩ | lints)
    · rw [read] at unread
      cases unread
    · exact lints
  · exact .inr

/-- A save of a file that was read is noticed if there is one notice, and a message about a lint that
has failed. -/
theorem saveNoticed_of_ok {later : Session} (once : NoticedOnce session later)
    (unlinted : ∀ linted failure, (Request.saved path).lintedFrom? session = some linted →
      (lintBody.run linted.begun).1 = .error failure →
      later.state.statusMessage = lintComplaint failure) : SaveNoticed path session later where
  once := once
  unread := by
    intro failure unread
    rw [read] at unread
    cases unread
  unlinted := unlinted

theorem saveEnd_of_unasked (unasked : (Request.saved path).lintedFrom? session = none)
    {later : Session} (once : NoticedOnce session later) :
    SaveEnd path session (.ok (), later) := by
  have idle : ∀ linted, (Request.saved path).lintedFrom? session ≠ some linted := by
    intro linted begun
    rw [unasked] at begun
    cases begun
  refine .dealt (fun failure escapes => ?_) (saveNoticed_of_ok read once ?_)
  · obtain ⟨linted, begun, -⟩ := (saveEscapes_of_ok_iff read).mp escapes
    exact idle linted begun
  · exact fun linted _ begun => absurd begun (idle linted)

theorem saveEnd_of_lint {reloaded : Session}
    (begins : (Request.saved path).lintedFrom? session = some reloaded)
    (same : reloaded.tidings = session.tidings) :
    SaveEnd path session reloaded.lintOnSave := by
  have onlyLint : ∀ {linted}, (Request.saved path).lintedFrom? session = some linted →
      linted = reloaded := fun begun => Option.some.inj (begun.symm.trans begins)
  have escapes_iff : ∀ other, SaveEscapes path session other ↔
      (lintBody.run reloaded.begun).1 = .error other ∧ other.isInterrupt = true := by
    intro other
    rw [saveEscapes_of_ok_iff read]
    constructor
    · rintro ⟨linted, begun, lints⟩
      rwa [onlyLint begun] at lints
    · exact fun lints => ⟨reloaded, begins, lints⟩
  have kept : (lintBody.run reloaded.begun).2.tidings = session.tidings :=
    (keeps_tidings_lintBody reloaded.begun).trans same
  rcases ran : lintBody.run reloaded.begun with ⟨failure | _, reached⟩
  · rw [ran] at kept
    have onlyFailure : ∀ {other}, (lintBody.run reloaded.begun).1 = .error other →
        other = failure := by
      intro other failed
      rw [ran] at failed
      exact (Except.error.inj failed).symm
    obtain ⟨interrupted, ordinary⟩ := lintOnSave_of_error ran
    by_cases interrupts : failure.isInterrupt = true
    · rw [interrupted interrupts]
      refine .escaped ((escapes_iff failure).mpr ⟨congrArg Prod.fst ran, interrupts⟩) ?_
      exact fun other escapes => onlyFailure ((escapes_iff other).mp escapes).1
    · obtain ⟨told, heard, message, ends⟩ := ordinary (by simpa using interrupts)
      rw [ends]
      refine .dealt (fun other escapes => ?_)
        (saveNoticed_of_ok read (noticedOnce_noticed (heard.trans kept)) ?_)
      · obtain ⟨failed, isInterrupt⟩ := (escapes_iff other).mp escapes
        rw [onlyFailure failed] at isInterrupt
        exact interrupts isInterrupt
      · intro linted other begun failed
        rw [onlyLint begun] at failed
        rw [onlyFailure failed]
        exact message
  · rw [ran] at kept
    have fine : ∀ other, (lintBody.run reloaded.begun).1 ≠ .error other := by
      intro other failed
      rw [ran] at failed
      cases failed
    rw [lintOnSave_of_ok ran]
    refine .dealt (fun other escapes => ?_)
      (saveNoticed_of_ok read (noticedOnce_noticed kept) ?_)
    · exact fine other ((escapes_iff other).mp escapes).1
    · intro linted other begun failed
      rw [onlyLint begun] at failed
      exact absurd failed (fine other)

theorem saveEnd_of_ok : SaveEnd path session ((saved path).run session) := by
  have begins := lintedFrom?_saved_of_ok path read
  rw [run_saved_of_ok read]
  by_cases onSave : session.settings.lintOnSave
  · rw [if_pos onSave] at begins ⊢
    exact saveEnd_of_lint read begins rfl
  · rw [if_neg onSave] at begins ⊢
    exact saveEnd_of_unasked read begins (noticedOnce_noticed rfl)

end

theorem saveEnd (path : Text) (session : Session) :
    SaveEnd path session ((saved path).run session) := by
  cases read : session.host.readText session.source with
  | error failure => exact saveEnd_of_error read
  | ok text => exact saveEnd_of_ok read

/-- A save ends with exactly the failures that it does not deal with. Every other save tells the
listener once, and the status says why the file was not read or not linted. -/
theorem save_ends_noticed (path : Text) (session : Session) :
    (∀ failure, ((saved path).run session).1 = .error failure ↔
      SaveEscapes path session failure) ∧
    (((saved path).run session).1 = .ok () →
      SaveNoticed path session ((saved path).run session).2) := by
  have ends := saveEnd path session
  generalize (saved path).run session = ended at ends ⊢
  cases ends with
  | escaped escapes only =>
      refine ⟨fun failure => ⟨fun same => ?_, fun escapesToo => ?_⟩, nofun⟩
      · obtain rfl := Except.error.inj same
        exact escapes
      · rw [only failure escapesToo]
  | dealt none noticed =>
      refine ⟨fun failure => ⟨nofun, fun escapes => ?_⟩, fun _ => noticed⟩
      exact absurd escapes (none failure)

/-- A session with a listener, on a file that is no text. -/
def illegibleSession : Session :=
  { refusedSession with
    host := { refusingHost with tree := ⟨[(["w"], .directory), (["w", "a.cue"],
      .file (.bytes [0xff]))]⟩ }
    hasListener := true }

/-- A save of a file that is no text escapes without a word. -/
theorem illegible_save_escapes :
    ((saved "/w/a.cue").run illegibleSession).1 = .error (.undecodable ⟨0xff, 0, 1, .invalidStart⟩) ∧
    ((saved "/w/a.cue").run illegibleSession).2.notices = illegibleSession.notices ∧
    ((saved "/w/a.cue").run illegibleSession).2.state.statusMessage = [] :=
  ⟨by decide +kernel, by decide +kernel, by decide +kernel⟩

end Session

end CueWatch
