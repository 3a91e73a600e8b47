import CueWatch.Proofs.Scratch
import CueWatch.Session.Basic

/-!
Contract: how work on a file begins.

Owns:
- `fresh`, the session that begins, and all that happens to the host before it does;
- that beginning is additive, and that it makes a scratch directory or nothing, unless the flags in
  the settings are no list.

Does not own: what a session does (`Proofs.Session`).
-/

namespace CueWatch.Session

open Attempt Host

/-- The session that begins on a file. -/
def fresh (host : Host) (settings : Settings.Store) (source : Text) (workspaceFolder : Option Text)
    (cue : Cue) (flags : List Settings.Value) (scratch : Scratch) : Session where
  host := host
  settings := settings
  source := source
  workspaceFolder := workspaceFolder
  cue := cue
  lintFlags := .array flags
  state := { State.initial with lintFlags := flags, evalOutType := settings.evalOutType }
  published := .empty
  scratch := scratch
  watcher := .initial
  hasListener := false
  notices := 0

/-- What has been found and made when a session has begun. -/
theorem exists_of_create {file : Text} {settings : Settings.Store} {workspaceFolder : Option Text}
    {host made : Host} {session : Session}
    (created : (create file settings workspaceFolder).run host = (.ok session, made)) :
    ∃ source cue found scratch flags,
      host.absolute file = .ok source ∧ (Cue.find settings.program).run host = (.ok cue, found) ∧
      (Scratch.create Scratch.standardStart).run found = (.ok scratch, made) ∧
      settings.lintFlags = .ok flags ∧
      session = fresh made settings source workspaceFolder cue flags scratch := by
  obtain ⟨source, _, required, created⟩ := run_bind_eq_ok_iff.mp created
  obtain ⟨located, rfl⟩ := Prod.mk.inj required
  obtain ⟨cue, found, isFound, created⟩ := run_bind_eq_ok_iff.mp created
  obtain ⟨scratch, _, isMade, created⟩ := run_bind_eq_ok_iff.mp created
  obtain ⟨flags, _, given, created⟩ := run_bind_eq_ok_iff.mp created
  rw [run_ofExcept] at given
  obtain ⟨listed, rfl⟩ := Prod.mk.inj given
  obtain ⟨same, rfl⟩ := Prod.mk.inj created
  exact ⟨source, cue, found, scratch, flags, located, isFound, isMade, listed,
    (Except.ok.inj same).symm⟩

/-- A session that is begun is on the file that was named, and on the host that is reached. -/
theorem source_of_create {file : Text} {settings : Settings.Store} {workspaceFolder : Option Text}
    {host made : Host} {session : Session}
    (created : (create file settings workspaceFolder).run host = (.ok session, made)) :
    host.absolute file = .ok session.source ∧ session.host = made := by
  obtain ⟨source, cue, found, scratch, flags, located, -, -, -, rfl⟩ := exists_of_create created
  exact ⟨located, rfl⟩

/-! ### What happens to the host -/

theorem additive_create (file : Text) (settings : Settings.Store) (workspaceFolder : Option Text) :
    Additive (create file settings workspaceFolder) := by
  refine Additive.bind (Additive.require _) fun source => ?_
  refine Additive.bind ?_ fun cue => ?_
  · refine Additive.bind (Additive.require _) fun path => ?_
    exact Additive.ite (Additive.bind (additive_log _ _) fun _ => Additive.pure _) (Additive.pure _)
  refine Additive.bind ?_ fun scratch => ?_
  · refine Additive.bind (Additive.look _) fun directory => ?_
    refine Additive.bind (additive_makeTemporary _ directory) fun root => ?_
    exact Additive.bind (additive_log _ _) fun _ => Additive.pure _
  refine Additive.bind (Additive.ofExcept _) fun flags => ?_
  exact Additive.bind (Additive.look _) fun host => Additive.pure _

/-- Finding the program does nothing to the host but for the journal. -/
theorem keeps_find (name : Settings.Value) : Keeps unlogged (Cue.find name) := by
  refine Keeps.bind (Keeps.require _) fun path => ?_
  exact Keeps.ite (Keeps.bind (Keeps.change fun _ => rfl) fun _ => Keeps.pure _) (Keeps.pure _)

/-- When no session begins on settings whose flags are a list, no scratch directory has been made. -/
theorem still_of_create_error {file : Text} {settings : Settings.Store}
    {workspaceFolder : Option Text}
    {flags : List Settings.Value} {host reached : Host} {failure : Failure}
    (listed : settings.lintFlags = .ok flags)
    (failed : (create file settings workspaceFolder).run host = (.error failure, reached))
    (inside : Path → Prop) : Still inside reached host := by
  have atomic : Atomic standing (create file settings workspaceFolder) := by
    refine Atomic.bind (Keeps.require _) fun source => ?_
    refine Atomic.bind (fun host => ?_) fun cue => ?_
    · exact standing_of_unlogged (keeps_find settings.program host)
    refine Atomic.bind_total (Scratch.atomic_create _) fun scratch => ?_
    rw [listed]
    exact Total.bind (Total.pure flags) fun flags state => ⟨_, state, rfl⟩
  exact .of_standing (atomic host failure reached failed)

/-- A session that begins has a new scratch directory, and nothing else has changed. -/
theorem exists_scratch_of_create {file : Text} {settings : Settings.Store}
    {workspaceFolder : Option Text} {host made : Host} {session : Session}
    (sound : host.tree.Sound)
    (created : (create file settings workspaceFolder).run host = (.ok session, made)) :
    ∃ own, Holds session.scratch.root own made ∧
      Still (fun path => own.isAtOrAbove path = true) made host ∧
      ∀ path, own.isAtOrAbove path = true → host.tree.get? path = none := by
  obtain ⟨source, cue, found, scratch, flags, -, isFound, isMade, -, rfl⟩ :=
    exists_of_create created
  have searched := keeps_find settings.program host
  rw [isFound] at searched
  have still : Still (fun _ => False) found host := .of_unlogged searched
  obtain ⟨own, holds, stillMade, free⟩ :=
    Scratch.exists_of_create ((matures_of_unlogged searched).sound sound) isMade
  refine ⟨own, holds, stillMade.trans (still.mono fun _ => False.elim), fun path isInside => ?_⟩
  rw [← still.outside path id, free path isInside]

end CueWatch.Session
