import CueWatch.CommandLine.Run
import CueWatch.Proofs.Session.Success
import Mathlib.Data.List.Forall2

/-!
Contract: the course of several commands, one after the other.

Owns:
- `course`, the commands that are carried out, each with the session before it: all that are asked
  for, unless one of them finds the `cue` program missing, which is then the last;
- the session after the course, and what the course starts: for each command at most one process, of
  its own kind.

Does not own: what is printed and which code the run ends with (`CommandLine.ExitCode`).
-/

namespace CueWatch.CommandLine

/-- A command that is carried out, and the session before it. -/
structure Turn where
  command : Session.Command
  session : Session

namespace Turn

def Succeeds (turn : Turn) : Prop := turn.command.Succeeds turn.session

def missesCue (turn : Turn) : Bool := turn.command.missesCue turn.session

/-- Processes that a turn may start: at most one, and of the kind of its command. -/
def MayStart (turn : Turn) (started : List Command) : Prop :=
  started.length ≤ 1 ∧ ∀ process ∈ started, Cue.Does turn.command.word process

end Turn

/-- The turns of commands: one after the other, up to the first that finds the `cue` program
missing. -/
def course : List Session.Command → Session → List Turn
  | [], _ => []
  | command :: later, session =>
      ⟨command, session⟩ ::
        if command.missesCue session then [] else course later (command.after session)

/-- The session after the turns of commands. -/
def afterCourse : List Session.Command → Session → Session
  | [], session => session
  | command :: later, session =>
      if command.missesCue session then command.after session
      else afterCourse later (command.after session)

section

variable {command : Session.Command} {later : List Session.Command} {session : Session}

theorem course_of_missing (missing : command.missesCue session = true) :
    course (command :: later) session = [⟨command, session⟩] := by
  rw [course, if_pos missing]

theorem course_of_found (found : command.missesCue session = false) :
    course (command :: later) session =
      ⟨command, session⟩ :: course later (command.after session) := by
  rw [course, if_neg (ne_true_of_eq_false found)]

theorem afterCourse_of_missing (missing : command.missesCue session = true) :
    afterCourse (command :: later) session = command.after session := by
  rw [afterCourse, if_pos missing]

theorem afterCourse_of_found (found : command.missesCue session = false) :
    afterCourse (command :: later) session = afterCourse later (command.after session) := by
  rw [afterCourse, if_neg (ne_true_of_eq_false found)]

end

/-- Nothing but the missing program keeps a command from its turn. -/
theorem course_complete {commands : List Session.Command} {session : Session}
    (found : ∀ turn ∈ course commands session, turn.missesCue = false) :
    (course commands session).map Turn.command = commands := by
  induction commands generalizing session with
  | nil => rfl
  | cons command later inductionHypothesis =>
      have first : command.missesCue session = false :=
        found ⟨command, session⟩ List.mem_cons_self
      rw [course_of_found first] at found ⊢
      rw [List.map_cons, inductionHypothesis fun turn member =>
        found turn (List.mem_cons_of_mem _ member)]

/-- Commands have their turns in the order in which they are asked for. -/
theorem course_isPrefix (commands : List Session.Command) (session : Session) :
    (course commands session).map Turn.command <+: commands := by
  induction commands generalizing session with
  | nil => exact List.prefix_refl []
  | cons command later inductionHypothesis =>
      rw [course, List.map_cons, List.cons_prefix_cons]
      refine ⟨rfl, ?_⟩
      split
      · exact List.nil_prefix
      · exact inductionHypothesis (command.after session)

/-- A command that finds the program missing is the last to have its turn. -/
theorem getLast?_course_of_missing {commands : List Session.Command} {session : Session}
    {turn : Turn} (member : turn ∈ course commands session) (missing : turn.missesCue = true) :
    (course commands session).getLast? = some turn := by
  induction commands generalizing session with
  | nil => cases member
  | cons command later inductionHypothesis =>
      cases first : command.missesCue session with
      | true =>
          rw [course_of_missing first] at member ⊢
          rw [List.mem_singleton.mp member]
          rfl
      | false =>
          rw [course_of_found first] at member ⊢
          rcases List.mem_cons.mp member with rfl | isLater
          · exact absurd missing (ne_true_of_eq_false first)
          · rw [List.getLast?_cons, inductionHypothesis isLater]
            rfl

/-- A course starts the processes of its turns, and no other. -/
theorem spawned_afterCourse (commands : List Session.Command) (session : Session) :
    ∃ started : List (List Command),
      List.Forall₂ Turn.MayStart (course commands session) started ∧
      (afterCourse commands session).host.spawned = session.host.spawned ++ started.flatten := by
  induction commands generalizing session with
  | nil => exact ⟨[], .nil, (List.append_nil _).symm⟩
  | cons command later inductionHypothesis =>
      obtain ⟨own, few, each, spawned⟩ := (Session.starts_command command).spawned session
      have may : Turn.MayStart ⟨command, session⟩ own := ⟨few, each⟩
      cases missing : command.missesCue session with
      | true =>
          rw [course_of_missing missing, afterCourse_of_missing missing]
          refine ⟨[own], .cons may .nil, ?_⟩
          rw [List.flatten_singleton]
          exact spawned
      | false =>
          rw [course_of_found missing, afterCourse_of_found missing]
          obtain ⟨others, mays, spawnedLater⟩ := inductionHypothesis (command.after session)
          refine ⟨own :: others, .cons may mays, ?_⟩
          have first : (command.after session).host.spawned = session.host.spawned ++ own := spawned
          rw [spawnedLater, first, List.flatten_cons, List.append_assoc]

/-- What a run of commands comes to: its turns, its code, and the processes it has started. -/
structure Account (requested : List Session.Command) (session : Session) (code : Nat)
    (started : List Command) : Prop where
  ordered : (course requested session).map Turn.command <+: requested
  complete : (∀ turn ∈ course requested session, turn.missesCue = false) →
    (course requested session).map Turn.command = requested
  code_le_one : code ≤ 1
  code_eq_zero_iff : code = 0 ↔
    (∀ turn ∈ course requested session, turn.missesCue = false) ∧
      ∀ turn ∈ course requested session, turn.Succeeds
  processes : ∃ each : List (List Command),
    List.Forall₂ Turn.MayStart (course requested session) each ∧ started = each.flatten
  stopped : ∀ turn ∈ course requested session, turn.missesCue = true →
    code = 1 ∧ (course requested session).getLast? = some turn

/-- Whatever a run comes to is told by its code. -/
theorem exists_account {requested : List Session.Command} {session : Session} {code : Nat}
    (code_le_one : code ≤ 1)
    (code_eq_zero_iff : code = 0 ↔
      (∀ turn ∈ course requested session, turn.missesCue = false) ∧
        ∀ turn ∈ course requested session, turn.Succeeds) :
    ∃ started, Account requested session code started ∧
      (afterCourse requested session).host.spawned = session.host.spawned ++ started := by
  obtain ⟨each, mays, spawned⟩ := spawned_afterCourse requested session
  refine ⟨each.flatten, ?_, spawned⟩
  refine
    { ordered := course_isPrefix requested session
      complete := course_complete
      code_le_one := code_le_one
      code_eq_zero_iff := code_eq_zero_iff
      processes := ⟨each, mays, rfl⟩
      stopped := fun turn member missing => ⟨?_, getLast?_course_of_missing member missing⟩ }
  -- A turn that misses the program rules the code zero out, and no code is above one.
  have notZero : code ≠ 0 := fun zero =>
    ne_false_of_eq_true missing ((code_eq_zero_iff.mp zero).1 turn member)
  omega

end CueWatch.CommandLine
