import CueWatch.Panel.App
import CueWatch.Panel.Markup.Balance
import CueWatch.Proofs.Path.Ancestry
import CueWatch.Proofs.Session.Results

/-!
Contract: what a session knows of its last result, and the heading under which the panel shows it.

Owns:
- `EvalData`, the part of a session's state that is about evaluations, and what a turn does to it;
- `Coherent`, the data that belong together: the output type names the file and stands in the
  heading;
- that the data come from the last turn that gave a file, but for the output type, which a later
  turn may have set for evaluations to come.

Does not own: what the file holds (`Proofs.Session.Results`).
-/

namespace CueWatch

open Attempt

namespace Session

/-! ### What a session knows of its last result -/

/-- What a session knows of evaluations. -/
structure EvalData where
  output : Text
  outType : Settings.Value
  file? : Option Text

def evalData (session : Session) : EvalData :=
  ⟨session.state.evalOutput, session.state.evalOutType, session.state.evalFile⟩

theorem overlooks_evalData : Overlooks evalData :=
  ⟨fun _ _ => rfl, fun _ _ _ => rfl, fun _ _ => rfl⟩

theorem ignoresLints_evalData : IgnoresLints evalData where
  overlooks := overlooks_evalData
  host := fun _ _ => rfl
  settings := fun _ _ => rfl
  flags := fun _ _ => rfl
  published := fun _ _ => rfl
  watcher := fun _ _ => rfl
  state := fun _ _ _ _ _ _ _ => rfl

/-- The output type in which a turn evaluates. -/
def Turn.outType (turn : Turn) : Settings.Value :=
  match turn.request with
  | .evaluate _ outType => chosenOutType outType turn.before.state
  | _ => turn.before.state.evalOutType

/-- The output type that a turn sets for evaluations to come, if it does. -/
def Turn.setOutType? (turn : Turn) : Option Settings.Value :=
  match turn.request with
  | .setOutType outType => some outType
  | _ => none

/-! ### One turn -/

theorem outType_of_run_evaluate {expressions outType : Settings.Value} {session reached : Session}
    {file : Text} (ran : (evaluate expressions outType).run session = (.ok (some file), reached)) :
    reached.state.evalOutType = chosenOutType outType session.state := by
  rw [evaluate, run_bind_of_ok (run_look _ session)] at ran
  rcases exists_of_run_perform_ok ran with ⟨between, body, rfl⟩ | ⟨⟨⟩, -⟩
  obtain ⟨_, _, _, _, _, _, _, _, -, -, -, -, -, -, -, rfl⟩ := exists_of_run_evaluateBody_ok body
  rfl

/-- A turn that gives a file leaves what it has printed, in its output type. -/
theorem evalData_of_returned {turn : Turn} {file : Text}
    (temporary : Host.IsTemporary turn.before.scratch.root) (gives : turn.returned? = some file) :
    turn.after.evalData = ⟨turn.before.printed, turn.outType, some file⟩ := by
  obtain ⟨expressions, outType, isEvaluation, ran⟩ := Turn.exists_of_returned? gives
  have resulted := resulted_evaluate temporary ran
  have typed := outType_of_run_evaluate ran
  rw [evalData, resulted.output, resulted.remembered, typed, Turn.outType, isEvaluation]

/-- The file that a turn gives is named for the format that its output type tells. -/
theorem exists_format_of_returned {turn : Turn} {file : Text}
    (temporary : Host.IsTemporary turn.before.scratch.root) (gives : turn.returned? = some file) :
    ∃ format : OutType, turn.outType = .text format.name ∧
      Spelling.name file = "eval." ++ format.extension := by
  obtain ⟨expressions, outType, isEvaluation, ran⟩ := Turn.exists_of_returned? gives
  obtain ⟨number, format, isFormat, isResult, -⟩ := (resulted_evaluate temporary ran).placed
  refine ⟨format, ?_, ?_⟩
  · rw [Turn.outType, isEvaluation]
    exact OutType.eq_of_ofValue? isFormat
  · rw [isResult]
    exact Spelling.name_append _ (isPlain_resultName format).single

/-- An evaluation that gives no file leaves what was known. -/
theorem evalData_evaluate {expressions outType : Settings.Value} {before : Session}
    (givesNone : Turn.returned? ⟨before, .evaluate expressions outType⟩ = none) :
    ((evaluate expressions outType).run before).2.evalData = before.evalData := by
  have atomic : Atomic evalData (evaluateBody expressions (chosenOutType outType before.state)) :=
    atomic_evaluateBody (fun _ _ => rfl) expressions _
  have fails : Fails (evaluate expressions outType) before := by
    rcases ran : (evaluate expressions outType).run before with ⟨failure | file?, reached⟩
    · exact .inl ⟨failure, by rw [ran]⟩
    · right
      rw [Turn.returned?] at givesNone
      simp only [ran] at givesNone ⊢
      intro silent
      have isSome := (isSome_iff_of_run_evaluate ran).mpr silent
      rw [givesNone] at isSome
      cases isSome
  exact overlooks_evalData.view_perform_of_fails (quiet_evaluateBody _ _) atomic fails

theorem evalData_setOutType (outType : Settings.Value) (session : Session) :
    ((setOutType outType).run session).2.evalData =
      { session.evalData with outType := outType } :=
  ignoresLints_evalData.keeps_setting "eval_out_type" outType
    { session with state := { session.state with evalOutType := outType } }

/-- A turn that gives no file leaves what was known, but for an output type that it sets. -/
theorem evalData_of_unreturned {turn : Turn} (givesNone : turn.returned? = none) :
    turn.after.evalData =
      { turn.before.evalData with
        outType := turn.setOutType?.getD turn.before.evalData.outType } := by
  obtain ⟨before, request⟩ := turn
  cases request with
  | evaluate expressions outType =>
      exact (congrArg evalData (after_evaluate expressions outType before)).trans
        (evalData_evaluate givesNone)
  | setOutType outType => exact evalData_setOutType outType before
  | _ => exact ignoresLints_evalData.keeps_perform (by rintro _ _ ⟨⟩) (by rintro _ ⟨⟩) before

/-! ### Histories -/

/-- What others may do to a session: anything that leaves it its scratch directory and what it knows
of evaluations. -/
def SparesEvalData (session later : Session) : Prop :=
  later.scratch = session.scratch ∧ later.evalData = session.evalData

/-- The last of some turns that has given a file, and the turns after it. -/
structure LastResult (turns : List Turn) (turn : Turn) (file : Text) (later : List Turn) : Prop where
  splits : ∃ earlier, turns = earlier ++ turn :: later
  gives : turn.returned? = some file
  isLast : ∀ other ∈ later, other.returned? = none

/-- The output type that was set last in some turns. -/
def lastOutType? (turns : List Turn) : Option Settings.Value :=
  (turns.filterMap Turn.setOutType?).getLast?

theorem lastOutType?_asked (turns : List Turn) (turn : Turn) :
    lastOutType? (turns ++ [turn]) = turn.setOutType?.or (lastOutType? turns) := by
  rw [lastOutType?, filterMap_asked, List.getLast?_append]
  cases turn.setOutType? <;> rfl

/-- If no other output type has been set, it is the one before. -/
theorem lastOutType?_of_unchanged {turns : List Turn} {outType : Settings.Value}
    (unchanged : ∀ turn ∈ turns, ∀ other, turn.setOutType? = some other → other = outType) :
    (lastOutType? turns).getD outType = outType := by
  cases set : lastOutType? turns with
  | none => rfl
  | some other =>
      obtain ⟨turn, member, sets⟩ := List.mem_filterMap.mp (List.mem_of_getLast? set)
      exact unchanged turn member other sets

theorem LastResult.asked {turns later : List Turn} {turn : Turn} {file : Text}
    (last : LastResult turns turn file later) {next : Turn} (givesNone : next.returned? = none) :
    LastResult (turns ++ [next]) turn file (later ++ [next]) where
  splits := by
    obtain ⟨earlier, rfl⟩ := last.splits
    exact ⟨earlier, by simp⟩
  gives := last.gives
  isLast := by
    intro other member
    rcases List.mem_append.mp member with old | new
    · exact last.isLast other old
    · obtain rfl := List.mem_singleton.mp new
      exact givesNone

/-- A session knows nothing of a file, or it knows what the last turn has left that gave one, with
the output type that was set last since then. -/
inductive Remembers (root : Text) (turns : List Turn) (session : Session) : Prop
  | nothing (noFile : session.state.evalFile = none)
  | last {turn : Turn} {file : Text} {later : List Turn} (isLast : LastResult turns turn file later)
      (isRoot : turn.before.scratch.root = root)
      (known : session.evalData =
        ⟨turn.before.printed, (lastOutType? later).getD turn.outType, some file⟩)

theorem IsNew.evalFile {session : Session} (new : IsNew session) :
    session.state.evalFile = none := by
  obtain ⟨-, -, -, flags, outType, known⟩ := new.exists_of_create
  rw [known]
  rfl

/-- A turn goes on from what is remembered: it gives a file of its own, or leaves the last one. -/
theorem Remembers.asked {root : Text} {turns : List Turn} {session : Session}
    (remembers : Remembers root turns session) (isRoot : session.scratch.root = root)
    (temporary : Host.IsTemporary root) (request : Request) :
    Remembers root (turns ++ [⟨session, request⟩]) (request.perform.run session).2 := by
  cases gives : Turn.returned? ⟨session, request⟩ with
  | some file =>
      exact .last ⟨⟨turns, rfl⟩, gives, by rintro other ⟨⟩⟩ isRoot
        (evalData_of_returned (by rw [isRoot]; exact temporary) gives)
  | none =>
      have after := evalData_of_unreturned gives
      cases remembers with
      | nothing noFile => exact .nothing ((congrArg EvalData.file? after).trans noFile)
      | last isLast wasRoot known =>
          refine .last (isLast.asked gives) wasRoot (after.trans ?_)
          rw [lastOutType?_asked, known]
          cases Turn.setOutType? ⟨session, request⟩ <;> rfl

theorem remembers_of_history {first session : Session} {turns : List Turn} (new : IsNew first)
    (history : History SparesEvalData first turns session) :
    session.scratch.root = first.scratch.root ∧
      Remembers first.scratch.root turns session := by
  induction history with
  | opened => exact ⟨rfl, .nothing new.evalFile⟩
  | @asked turns session _ request inductionHypothesis =>
      obtain ⟨isRoot, remembers⟩ := inductionHypothesis
      have kept := congrArg Fixture.scratch (keeps_fixture_perform request session)
      exact ⟨(congrArg Scratch.root kept).trans isRoot,
        remembers.asked isRoot new.isTemporary request⟩
  | disturbed earlier spared inductionHypothesis =>
      obtain ⟨isRoot, remembers⟩ := inductionHypothesis
      refine ⟨(congrArg Scratch.root spared.1).trans isRoot, ?_⟩
      cases remembers with
      | nothing noFile => exact .nothing ((congrArg EvalData.file? spared.2).trans noFile)
      | last isLast wasRoot known => exact .last isLast wasRoot (spared.2.trans known)

/-! ### The heading -/

theorem output_refresh (app : Panel.App) :
    (Panel.App.refresh.run app).2.output = app.refreshPanes.output := by
  have kept : ∀ change, Keeps Panel.App.output (Panel.App.changeBar change) := fun change =>
    Keeps.bind (Keeps.change fun _ => rfl) fun _ => Keeps.require _
  exact view_run_bind (Attempt.change Panel.App.refreshPanes)
    (fun _ => Keeps.bind (Keeps.look _) fun state => kept _) app

/-- The output of a result is shown under the output type, if that names a format. -/
theorem output_refresh_of_known {session : Session} {file format : Text}
    (known : session.state.evalFile = some file) (type : session.state.evalOutType = .text format)
    {app : Panel.App} (shows : app.session = session) :
    (Panel.App.refresh.run app).2.output =
      some (Panel.EvalPane.render session.state.evalOutput format) := by
  rw [output_refresh, Panel.App.refreshPanes, shows]
  dsimp only
  rw [known, type]
  rfl

/-- The data of a result belong together: its format is the output type, gives the file its name,
and stands in the heading over the output when a panel next shows the session. -/
structure Coherent (session : Session) (file : Text) (format : OutType) : Prop where
  type : session.state.evalOutType = .text format.name
  named : Spelling.name file = "eval." ++ format.extension
  headed : ∀ app : Panel.App, app.session = session →
    (Panel.App.refresh.run app).2.output =
      some (Panel.EvalPane.render session.state.evalOutput format.name)

/-- In every history of a new session, what is known of a result comes from the last turn that gave
a file: the output is what its process printed, the file is named for its format, and the output
type is its format or what has been set last since then. Unless another output type has been set,
these data belong together. -/
theorem eval_data_of_last_result {first session : Session} {turns : List Turn} (new : IsNew first)
    (history : History SparesEvalData first turns session) {file : Text}
    (known : session.state.evalFile = some file) :
    ∃ turn later format, LastResult turns turn file later ∧
      turn.outType = .text format.name ∧
      session.state.evalOutput = turn.before.printed ∧
      Spelling.name file = "eval." ++ format.extension ∧
      session.state.evalOutType = (lastOutType? later).getD (.text format.name) ∧
      ((∀ other ∈ later, ∀ outType, other.setOutType? = some outType → outType = .text format.name) →
        Coherent session file format) := by
  obtain ⟨isRoot, remembers⟩ := remembers_of_history new history
  cases remembers with
  | nothing noFile =>
      rw [known] at noFile
      cases noFile
  | @last turn own later isLast wasRoot data =>
      have isFile : some file = some own := known.symm.trans (congrArg EvalData.file? data)
      obtain rfl := Option.some.inj isFile
      have output : session.state.evalOutput = turn.before.printed :=
        congrArg EvalData.output data
      have type : session.state.evalOutType = (lastOutType? later).getD turn.outType :=
        congrArg EvalData.outType data
      have temporary : Host.IsTemporary turn.before.scratch.root := by
        rw [wasRoot]
        exact new.isTemporary
      obtain ⟨format, produced, named⟩ := exists_format_of_returned temporary isLast.gives
      rw [produced] at type
      refine ⟨turn, later, format, isLast, produced, output, named, type, fun unchanged => ?_⟩
      rw [lastOutType?_of_unchanged unchanged] at type
      exact ⟨type, named, fun app shows => output_refresh_of_known known type shows⟩

/-- The file of the first result of the printing session. -/
def firstResult : Text := "/tmp/cuebolt-00000001/eval00000002/eval.cue"

/-- The printing session after its first result. -/
def evaluatedSession : Session := (plainEvaluation.perform.run printingSession).2

/-- The session when another output type has been set after its first result. -/
def retypedSession : Session :=
  ((Request.setOutType (.text "yaml")).perform.run evaluatedSession).2

def retypedTurns : List Turn :=
  [⟨printingSession, plainEvaluation⟩, ⟨evaluatedSession, .setOutType (.text "yaml")⟩]

theorem history_retypedSession : History SparesEvalData printingSession retypedTurns retypedSession :=
  (History.opened.asked plainEvaluation).asked (.setOutType (.text "yaml"))

theorem first_result_remembered :
    retypedSession.state.evalFile = some firstResult ∧
    ∃ turn later, ∃ format : OutType, LastResult retypedTurns turn firstResult later ∧
      turn.outType = .text format.name ∧
      retypedSession.state.evalOutput = turn.before.printed ∧
      Spelling.name firstResult = "eval." ++ format.extension ∧
      retypedSession.state.evalOutType = (lastOutType? later).getD (.text format.name) := by
  have new : IsNew printingSession := ⟨_, _, _, _, create_printingSession⟩
  have known : retypedSession.state.evalFile = some firstResult := by decide +kernel
  obtain ⟨turn, later, format, isLast, type, output, named, set, -⟩ :=
    eval_data_of_last_result new history_retypedSession known
  exact ⟨known, turn, later, format, isLast, type, output, named, set⟩

/-- The heading over what was printed as `cue` names the output type that has been set since. -/
theorem heading_names_other_type :
    IsNew printingSession ∧ History SparesEvalData printingSession retypedTurns retypedSession ∧
    retypedSession.state.evalFile = some firstResult ∧
    Spelling.name firstResult = "eval.cue" ∧
    retypedSession.state.evalOutType = .text "yaml" ∧
    (Panel.App.refresh.run (Panel.App.ofSession Panel.Markup.check retypedSession)).2.output =
      some (Panel.EvalPane.render "x: 1" "yaml") := by
  have type : retypedSession.state.evalOutType = .text "yaml" :=
    congrArg EvalData.outType (evalData_setOutType (.text "yaml") evaluatedSession)
  refine ⟨⟨_, _, _, _, create_printingSession⟩, history_retypedSession, ?_, ?_, type, ?_⟩
  · decide +kernel
  · decide +kernel
  · decide +kernel

end Session

end CueWatch
