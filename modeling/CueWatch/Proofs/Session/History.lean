import CueWatch.Proofs.Path.Normal
import CueWatch.Proofs.Session.Creation
import CueWatch.Proofs.Session.Request

/-!
Contract: a session from its creation on, with everything that is asked of it.

Owns:
- `IsNew`, the sessions that have just been created, and what they have been made of;
- `Turn`, one request with the session that it finds;
- `History`, the turns that lead from a new session to a later one, with what others do in between;
- `Fixture`, what no request changes, and that whatever neither requests nor others change is the
  same in every turn.

Does not own: what a request does (`Proofs.Session.Request`).
-/

namespace CueWatch.Session

open Attempt

/-! ### What no request changes -/

/-- The parts of a session that are chosen when it is created. -/
structure Fixture where
  source : Text
  workspaceFolder : Option Text
  cue : Cue
  scratch : Scratch
  hasListener : Bool

def fixture (session : Session) : Fixture :=
  ⟨session.source, session.workspaceFolder, session.cue, session.scratch, session.hasListener⟩

theorem overlooks_fixture : Overlooks fixture :=
  ⟨fun _ _ => rfl, fun _ _ _ => rfl, fun _ _ => rfl⟩

theorem ignoresLints_fixture : IgnoresLints fixture where
  overlooks := overlooks_fixture
  host := fun _ _ => rfl
  settings := fun _ _ => rfl
  flags := fun _ _ => rfl
  published := fun _ _ => rfl
  watcher := fun _ _ => rfl
  state := fun _ _ _ _ _ _ _ => rfl

theorem keeps_fixture_perform (request : Request) : Keeps fixture request.perform := by
  cases request with
  | evaluate expressions outType =>
      refine Keeps.bind (Keeps.bind (Keeps.look _) fun chosen => ?_) fun _ => Keeps.pure ()
      refine overlooks_fixture.keeps_perform .evaluate none ?_
      exact keeps_evaluateBody (fun _ _ => rfl) (fun _ _ _ _ _ => rfl) expressions chosen
  | setOutType outType =>
      refine Keeps.bind (keeps_updateState fun _ => rfl) fun _ => ?_
      exact ignoresLints_fixture.keeps_setting _ _
  | _ => exact ignoresLints_fixture.keeps_perform (by rintro _ _ ⟨⟩) (by rintro _ ⟨⟩)

/-! ### Histories -/

/-- One turn of a history: what is asked, and the session that it is asked of. -/
structure Turn where
  before : Session
  request : Request

def Turn.after (turn : Turn) : Session := (turn.request.perform.run turn.before).2

/-- A session that has just been created. -/
def IsNew (session : Session) : Prop :=
  ∃ file settings workspaceFolder host,
    ((create file settings workspaceFolder).run host).1 = .ok session

/-- The turns that lead from one session to a later one. Between them others may do to the session
and its surroundings what they are allowed to. -/
inductive History (others : Session → Session → Prop) (first : Session) :
    List Turn → Session → Prop
  | opened : History others first [] first
  | asked {turns : List Turn} {session : Session} (earlier : History others first turns session)
      (request : Request) :
      History others first (turns ++ [⟨session, request⟩]) (request.perform.run session).2
  | disturbed {turns : List Turn} {session later : Session}
      (earlier : History others first turns session) (allowed : others session later) :
      History others first turns later

/-- What turns give is what the earlier ones give, and then what the last one does. -/
theorem filterMap_asked {α : Type} (give : Turn → Option α) (turns : List Turn) (turn : Turn) :
    (turns ++ [turn]).filterMap give = turns.filterMap give ++ (give turn).toList := by
  rw [List.filterMap_append, List.filterMap_cons, List.filterMap_nil]
  split
  next none => rw [none, Option.toList_none]
  next value gives => rw [gives, Option.toList_some]

/-- What a new session has been made of: the file as an absolute path, a new scratch directory, and
a state that knows only the settings. -/
theorem IsNew.exists_of_create {session : Session} (new : IsNew session) :
    (∃ file host, Host.absolute file host = .ok session.source) ∧
      (∃ host made,
        (Scratch.create Scratch.standardStart).run host = (.ok session.scratch, made)) ∧
      session.notices = 0 ∧
      ∃ flags outType, session.state =
        { State.initial with lintFlags := flags, evalOutType := outType } := by
  obtain ⟨file, settings, workspaceFolder, host, created⟩ := new
  obtain ⟨source, cue, found, scratch, flags, located, -, isMade, -, rfl⟩ :=
    Session.exists_of_create (Prod.ext created rfl)
  exact ⟨⟨file, host, located⟩, ⟨found, _, isMade⟩, rfl, flags, _, rfl⟩

/-- A new session works on a file that is spelled from the root, in normal form. -/
theorem IsNew.source {session : Session} (new : IsNew session) :
    Spelling.isAbsolute session.source = true ∧
      Spelling.normal session.source = session.source := by
  obtain ⟨⟨file, host, located⟩, -⟩ := new.exists_of_create
  obtain ⟨written, rooted, isNormal⟩ := Host.exists_of_absolute located
  rw [isNormal]
  exact ⟨Spelling.isAbsolute_normal rooted, Spelling.normal_normal rooted⟩

/-- What neither requests nor others change is the same at every moment. -/
theorem History.same {γ : Type} {view : Session → γ} {others : Session → Session → Prop}
    {first session : Session} {turns : List Turn}
    (kept : ∀ request : Request, Keeps view request.perform)
    (spared : ∀ session later, others session later → view later = view session)
    (history : History others first turns session) :
    view session = view first ∧ ∀ turn ∈ turns, view turn.before = view first := by
  induction history with
  | opened => exact ⟨rfl, nofun⟩
  | asked earlier request inductionHypothesis =>
      obtain ⟨same, earlierSame⟩ := inductionHypothesis
      refine ⟨(kept request _).trans same, fun turn member => ?_⟩
      rcases List.mem_append.mp member with old | new
      · exact earlierSame turn old
      · obtain rfl := List.mem_singleton.mp new
        exact same
  | disturbed earlier allowed inductionHypothesis =>
      obtain ⟨same, earlierSame⟩ := inductionHypothesis
      exact ⟨(spared _ _ allowed).trans same, earlierSame⟩

end CueWatch.Session
