import CueWatch.Proofs.Session.Published
import CueWatch.Proofs.Session.Upkeep
import Mathlib.Data.List.Nodup

/-!
Contract: the files of evaluations are new, hold what was printed, and stay as they are.

Owns:
- `resultFile`, the names of such files, which differ whenever the numbers drawn do;
- `Resulted`, what an evaluation leaves that gives a file, and that after its process an evaluation
  only adds to the file tree;
- that in every history no file is given twice, and no evaluation changes a file that its process
  spares.

Does not own: the directory in which the process runs (`Proofs.Session.Vetting`).
-/

namespace CueWatch

open Attempt

/-- A run of the `cue` program gives the result of the next outcome. -/
theorem Cue.result_of_run {cue : Cue} {arguments : List Settings.Value} {directory : Option Text}
    {host ended : Host} {result : ProcessResult}
    (ran : (cue.run (.array arguments) directory).run host = (.ok result, ended)) :
    result = (host.outcomes.headD .silent).result := by
  rw [run] at ran
  split at ran
  next => cases ran
  next program found =>
    obtain ⟨items, _, listed, ran⟩ := run_bind_eq_ok_iff.mp ran
    rw [run_ofExcept] at listed
    obtain ⟨-, rfl⟩ := Prod.mk.inj listed
    obtain ⟨strings, _, told, ran⟩ := run_bind_eq_ok_iff.mp ran
    rw [run_ofExcept] at told
    obtain ⟨-, rfl⟩ := Prod.mk.inj told
    obtain ⟨_, noted, isNoted, ran⟩ := run_bind_eq_ok_iff.mp ran
    obtain ⟨-, rfl⟩ := Prod.mk.inj isNoted
    obtain ⟨texts, _, written, ran⟩ := run_bind_eq_ok_iff.mp ran
    rw [run_ofExcept] at written
    obtain ⟨-, rfl⟩ := Prod.mk.inj written
    rw [run_rescue] at ran
    split at ran
    next value reached spawned =>
      obtain ⟨same, -⟩ := Prod.mk.inj ran
      obtain rfl := Except.ok.inj same
      exact (Host.result_of_spawn spawned).trans rfl
    next => cases ran

namespace Session

/-! ### Names of results -/

/-- The directory of a result: in the scratch directory, under the number that was drawn. -/
def resultDirectory (root : Text) (number : Nat) : Text :=
  root ++ '/' :: ("eval" ++ Host.temporaryDigits number)

/-- The file of a result in a format. -/
def resultFile (root : Text) (number : Nat) (format : OutType) : Text :=
  resultDirectory root number ++ '/' :: ("eval." ++ format.extension)

theorem resultFile_inj {root : Text} {number other : Nat} {format last : OutType}
    (same : resultFile root number format = resultFile root other last) : number = other := by
  unfold resultFile resultDirectory at same
  simp only [List.append_assoc, List.cons_append, List.append_cancel_left_eq, List.cons.injEq,
    true_and] at same
  exact Host.temporaryDigits_inj_of_slash same

theorem isTemporary_resultDirectory (root : Text) (number : Nat) :
    Host.IsTemporary (resultDirectory root number) := by
  refine ⟨root ++ '/' :: "eval", number, ?_⟩
  rw [resultDirectory, List.append_assoc, List.cons_append]

theorem append_root {root : Text} (temporary : Host.IsTemporary root) (number : Nat) :
    Spelling.append root ("eval" ++ Host.temporaryDigits number) = resultDirectory root number :=
  temporary.append rfl

theorem evalFileIn_resultDirectory (root : Text) (number : Nat) (format : OutType) :
    evalFileIn (resultDirectory root number) format = resultFile root number format :=
  (isTemporary_resultDirectory root number).append rfl

theorem isPlain_resultName (format : OutType) : Spelling.IsPlain ("eval." ++ format.extension) := by
  cases format <;> constructor <;> decide

/-- The scratch directory of a new session is a temporary one. -/
theorem IsNew.isTemporary {session : Session} (new : IsNew session) :
    Host.IsTemporary session.scratch.root := by
  obtain ⟨-, ⟨host, made, allocated⟩, -⟩ := new.exists_of_create
  obtain ⟨directory, _, _, allocated⟩ := run_bind_eq_ok_iff.mp allocated
  obtain ⟨root, _, isMade, allocated⟩ := run_bind_eq_ok_iff.mp allocated
  obtain ⟨_, _, _, allocated⟩ := run_bind_eq_ok_iff.mp allocated
  rw [← Except.ok.inj (Prod.mk.inj allocated).1]
  obtain ⟨number, _, written, _⟩ := Host.exists_of_makeTemporary isMade
  dsimp only
  rw [written]
  exact Host.isTemporary_append directory Scratch.standardStart number

/-! ### One evaluation -/

/-- What the next process prints. -/
def printed (session : Session) : Text := (session.host.outcomes.headD .silent).result.stdout

/-- What an evaluation in an output type leaves that has given a file. The file lies in a directory
that was not there before, under a number drawn meanwhile; it holds what the process has printed,
and the session knows it. -/
structure Resulted (root : Text) (outType : Settings.Value) (before after : Session) (file : Text) :
    Prop where
  placed : ∃ number format, OutType.ofValue? outType = some format ∧
    file = resultFile root number format ∧
    before.host.drawn < number ∧ number ≤ after.host.drawn ∧
    ∀ found, before.host.find false (resultDirectory root number) ≠ .ok found
  content : after.host.content file = .ok (.text before.printed)
  output : after.state.evalOutput = before.printed
  remembered : after.state.evalFile = some file

theorem resulted_evaluateBody {expressions outType : Settings.Value} {session reached : Session}
    {file : Text} (temporary : Host.IsTemporary session.scratch.root)
    (ran : (evaluateBody expressions outType).run session = (.ok (some file), reached)) :
    Resulted session.scratch.root outType session reached file := by
  obtain ⟨directory, items, output, evaluated, place, made, format, kept, -, -, isRun, allocated,
    isType, wrote, same, rfl⟩ := exists_of_run_evaluateBody_ok ran
  obtain rfl := Option.some.inj same
  have launches := session.cue.launches_eval session.source items outType (some directory)
    session.host
  rw [isRun] at launches
  obtain ⟨number, reached, matures, later, drawn, written, isMade⟩ :=
    Scratch.exists_of_allocate allocated
  rw [append_root temporary] at written
  obtain rfl := written
  obtain ⟨own, result, isFormat, isSpawned, -, isPrinted⟩ := run_eval_eq_ok_iff.mp isRun
  rw [OutType.ofValue, isFormat] at isType
  obtain rfl := Except.ok.inj isType
  have printed : output = session.printed := by
    rw [← isPrinted, Cue.result_of_run isSpawned, Session.printed]
  rw [evalFileIn_resultDirectory] at wrote ⊢
  have drawnOn : number ≤ kept.drawn := by
    have writing :=
      (Host.matures_writeContent (resultFile session.scratch.root number own) (.text output)
        made).drawn
    rwa [← Host.writeText, wrote, drawn] at writing
  obtain ⟨-, spot, found⟩ := Host.find_of_writeContent wrote
  exact
    { placed :=
        ⟨number, own, isFormat, rfl, Nat.lt_of_le_of_lt launches.matures.drawn later, drawnOn,
          Host.absent_before_makeDirectory (matures.grown.trans launches.matures.grown)
            (isTemporary_resultDirectory _ number).withoutEndSlashes isMade⟩
      content := Host.content_eq_ok_iff.mpr ⟨spot, by rw [← printed]; exact found⟩
      output := printed
      remembered := rfl }

theorem resulted_evaluate {expressions outType : Settings.Value} {session reached : Session}
    {file : Text} (temporary : Host.IsTemporary session.scratch.root)
    (ran : (evaluate expressions outType).run session = (.ok (some file), reached)) :
    Resulted session.scratch.root (chosenOutType outType session.state) session reached file := by
  rw [evaluate, run_bind_of_ok (run_look _ session)] at ran
  rcases exists_of_run_perform_ok ran with ⟨between, body, rfl⟩ | ⟨⟨⟩, -⟩
  have resulted := resulted_evaluateBody (by exact temporary) body
  exact
    { placed := resulted.placed
      content := resulted.content
      output := resulted.output
      remembered := resulted.remembered }

/-- Keeping what was printed ends with the allocation of a directory, or writes a file there. -/
theorem keepOutput_ends (scratch : Scratch) (outType : Settings.Value) (output : Text)
    (session : Session) :
    ((keepOutput scratch outType output).run session).2.host =
        ((scratch.allocate "eval").run session.host).2 ∨
      ∃ place made format, (scratch.allocate "eval").run session.host = (.ok place, made) ∧
        ((keepOutput scratch outType output).run session).2.host =
          ((Host.writeText (evalFileIn place format) output).run made).2 := by
  rw [keepOutput]
  rcases allocated : (scratch.allocate "eval").run session.host with ⟨failure | place, made⟩
  · rw [run_bind_of_error (run_onHost_of_error allocated)]
    exact .inl rfl
  · rw [run_bind_of_ok (run_onHost_of_ok allocated)]
    cases OutType.ofValue outType with
    | error failure => exact .inl rfl
    | ok format =>
        have later : Keeps Session.host (do
            updateState fun state =>
              (state.withEval output outType (some (evalFileIn place format))).withStatus
                ("Evaluated as " ++ outType.shown)
            pure (some (evalFileIn place format))) :=
          Keeps.bind (Keeps.change fun _ => rfl) fun _ => Keeps.pure _
        rw [ofExcept_bind_ok, view_run_bind _ fun _ => later]
        exact .inr ⟨place, made, format, rfl, rfl⟩

/-- Keeping what was printed only adds to the file tree, whether or not it succeeds. -/
theorem adds_keepOutput {scratch : Scratch} {session : Session}
    (temporary : Host.IsTemporary scratch.root) (sound : session.host.tree.Sound)
    (outType : Settings.Value) (output : Text) :
    Host.Adds ((keepOutput scratch outType output).run session).2.host session.host := by
  have adds := (scratch.additive_allocate "eval" session.host).adds
  rcases keepOutput_ends scratch outType output session with
    ends | ⟨place, made, format, allocated, ends⟩
  · rw [ends]
    exact adds
  · obtain ⟨number, reached, matures, -, -, written, isMade⟩ :=
      Scratch.exists_of_allocate allocated
    rw [append_root temporary] at written
    obtain rfl := written
    have absent : ∀ old, made.content (evalFileIn (resultDirectory scratch.root number) format) ≠
        .ok old := by
      rw [evalFileIn_resultDirectory]
      exact Host.absent_in_makeDirectory (matures.sound sound)
        (isTemporary_resultDirectory _ number).withoutEndSlashes isMade (isPlain_resultName format)
    rw [allocated] at adds
    rw [ends]
    exact (Host.extends_writeContent (.text output) absent).adds.trans adds

/-- After its process an evaluation only adds to the file tree. -/
theorem adds_evaluate {session : Session} (temporary : Host.IsTemporary session.scratch.root)
    (sound : session.host.tree.Sound) (expressions outType : Settings.Value) :
    ∃ ended,
      Host.Launches (session.evalCommand? expressions (chosenOutType outType session.state))
        session.host ended ∧
      Host.Adds ((evaluate expressions outType).run session).2.host ended := by
  let chosen := chosenOutType outType session.state
  let cleared := { session with state := session.state.withError [] }
  have performed := overlooks_surroundings.view_perform .evaluate none
    (evaluateBody expressions chosen) session
  obtain ⟨ended, launches, ends⟩ := evaluateBody_ends expressions chosen cleared
  refine ⟨ended, launches, (Host.adds_of_unlogged performed).trans ?_⟩
  rcases ends with same | ⟨output, goesOn⟩
  · rw [same]
    exact .refl ended
  · rw [goesOn]
    exact adds_keepOutput temporary (launches.matures.sound sound) chosen output

/-! ### Histories -/

/-- The file that a turn gives, if it is an evaluation that gives one. -/
def Turn.returned? (turn : Turn) : Option Text :=
  match turn.request with
  | .evaluate expressions outType =>
      match ((evaluate expressions outType).run turn.before).1 with
      | .ok file? => file?
      | .error _ => none
  | _ => none

theorem Turn.exists_of_returned? {turn : Turn} {file : Text} (gives : turn.returned? = some file) :
    ∃ expressions outType, turn.request = .evaluate expressions outType ∧
      (evaluate expressions outType).run turn.before = (.ok (some file), turn.after) := by
  obtain ⟨before, request⟩ := turn
  cases request with
  | evaluate expressions outType =>
      refine ⟨expressions, outType, rfl, ?_⟩
      rw [returned?] at gives
      dsimp only at gives
      split at gives
      next file? given =>
        rw [gives] at given
        exact Prod.ext given (after_evaluate expressions outType before).symm
      next => cases gives
  | _ => cases gives

/-- The process of a turn, if there is one, leaves what a file holds. -/
def Turn.SparesFile (turn : Turn) (file : Text) : Prop :=
  ∀ ended content, Host.Launches turn.command? turn.before.host ended →
    turn.before.host.content file = .ok content → ended.content file = .ok content

/-- A process that writes no files leaves every file as it is. -/
theorem Turn.sparesFile_of_writeless {turn : Turn}
    (writeless : (turn.before.host.outcomes.headD .silent).writes = []) (file : Text) :
    turn.SparesFile file :=
  fun _ _ launches present => (launches.adds writeless).content present

/-- What others may do to a session while it evaluates: anything, but the scratch directory stays
the same, though it may be removed, file trees stay sound, and no temporary name is given back. -/
def SparesResults (session later : Session) : Prop :=
  later.scratch = session.scratch ∧ TendedSession later session

/-- Others may remove the scratch directory. -/
theorem sparesResults_removeTree (path : Text) (session : Session) :
    SparesResults session { session with host := session.host.removeTree path } :=
  ⟨rfl, Host.tended_removeTree path session.host⟩

theorem sparesResults_perform (request : Request) (session : Session) :
    SparesResults session (request.perform.run session).2 :=
  ⟨congrArg Fixture.scratch (keeps_fixture_perform request session), tended_perform request session⟩

/-- What the turns of a history have come to: their files lie in one scratch directory, under
different numbers that have been drawn. -/
structure Accumulated (root : Text) (turns : List Turn) (session : Session) : Prop where
  scratch : session.scratch.root = root
  sound : session.host.tree.Sound
  earlier : ∀ turn ∈ turns, turn.before.scratch.root = root ∧ turn.before.host.tree.Sound
  drawn : ∀ file ∈ turns.filterMap Turn.returned?,
    ∃ number format, file = resultFile root number format ∧ number ≤ session.host.drawn
  distinct : (turns.filterMap Turn.returned?).Nodup

namespace Accumulated

variable {root : Text} {turns : List Turn} {session : Session}

theorem disturbed (accumulated : Accumulated root turns session) {later : Session}
    (spared : SparesResults session later) : Accumulated root turns later where
  scratch := (congrArg Scratch.root spared.1).trans accumulated.scratch
  sound := spared.2.sound accumulated.sound
  earlier := accumulated.earlier
  drawn := by
    intro file member
    obtain ⟨number, format, isFile, drawn⟩ := accumulated.drawn file member
    exact ⟨number, format, isFile, Nat.le_trans drawn spared.2.drawn⟩
  distinct := accumulated.distinct

/-- A turn goes on from what has been accumulated: the number of its file was not drawn before. -/
theorem asked (temporary : Host.IsTemporary root) (accumulated : Accumulated root turns session)
    (request : Request) :
    Accumulated root (turns ++ [⟨session, request⟩]) (request.perform.run session).2 := by
  let turn : Turn := ⟨session, request⟩
  have later := accumulated.disturbed (sparesResults_perform request session)
  have appended := filterMap_asked Turn.returned? turns turn
  have numbered : ∀ file ∈ turn.returned?.toList, ∃ number format,
      file = resultFile root number format ∧ session.host.drawn < number ∧
        number ≤ turn.after.host.drawn := by
    intro file gives
    obtain ⟨expressions, outType, -, ran⟩ :=
      Turn.exists_of_returned? (Option.mem_toList.mp gives)
    obtain ⟨number, format, -, isFile, fresh, drawn, -⟩ :=
      (resulted_evaluate (by rw [accumulated.scratch]; exact temporary) ran).placed
    rw [accumulated.scratch] at isFile
    exact ⟨number, format, isFile, fresh, drawn⟩
  refine
    { scratch := later.scratch
      sound := later.sound
      earlier := fun other member => ?_
      drawn := fun file member => ?_
      distinct := ?_ }
  · rcases List.mem_append.mp member with old | new
    · exact accumulated.earlier other old
    · obtain rfl := List.mem_singleton.mp new
      exact ⟨accumulated.scratch, accumulated.sound⟩
  · rw [appended] at member
    rcases List.mem_append.mp member with old | new
    · exact later.drawn file old
    · obtain ⟨number, format, isFile, -, drawn⟩ := numbered file new
      exact ⟨number, format, isFile, drawn⟩
  · rw [appended]
    refine List.nodup_append'.mpr ⟨accumulated.distinct, Option.toList_nodup _, ?_⟩
    intro file old new
    obtain ⟨earlier, first, isFile, drawn⟩ := accumulated.drawn file old
    obtain ⟨number, format, isFileToo, fresh, -⟩ := numbered file new
    obtain rfl := resultFile_inj (isFile.symm.trans isFileToo)
    exact absurd drawn (Nat.not_le.mpr fresh)

end Accumulated

theorem accumulated_of_history {first session : Session} {turns : List Turn}
    (temporary : Host.IsTemporary first.scratch.root) (sound : first.host.tree.Sound)
    (history : History SparesResults first turns session) :
    Accumulated first.scratch.root turns session := by
  induction history with
  | opened =>
      exact
        { scratch := rfl
          sound := sound
          earlier := fun _ member => absurd member List.not_mem_nil
          drawn := fun _ member => absurd member List.not_mem_nil
          distinct := List.nodup_nil }
  | asked earlier request inductionHypothesis => exact inductionHypothesis.asked temporary request
  | disturbed earlier spared inductionHypothesis => exact inductionHypothesis.disturbed spared

/-- What an evaluation comes to in a turn. If it gives a file, that is new and holds what its process
has printed; no file that its process spares is changed; and it gives none exactly if it leaves an
error. -/
structure Evaluated (root : Text) (turn : Turn) (expressions outType : Settings.Value) : Prop where
  resulted : ∀ file, turn.returned? = some file →
    Resulted root (if outType.isSet then outType else turn.before.state.evalOutType) turn.before
      turn.after file
  spared : ∀ file content, turn.before.host.content file = .ok content → turn.SparesFile file →
    turn.after.host.content file = .ok content
  error : ∀ file?, ((evaluate expressions outType).run turn.before).1 = .ok file? →
    (file? = none ↔ turn.after.state.lastError ≠ [])

theorem evaluated {turn : Turn} {expressions outType : Settings.Value}
    (isEvaluation : turn.request = .evaluate expressions outType)
    (temporary : Host.IsTemporary turn.before.scratch.root)
    (sound : turn.before.host.tree.Sound) :
    Evaluated turn.before.scratch.root turn expressions outType := by
  obtain ⟨before, request⟩ := turn
  obtain rfl := isEvaluation
  have after : Turn.after ⟨before, .evaluate expressions outType⟩ =
      ((evaluate expressions outType).run before).2 := after_evaluate expressions outType before
  refine { resulted := fun file gives => ?_, spared := fun file content => ?_, error := ?_ }
  · obtain ⟨_, _, same, ran⟩ := Turn.exists_of_returned? gives
    obtain ⟨rfl, rfl⟩ := Request.evaluate.inj same
    exact resulted_evaluate temporary ran
  · intro present spares
    obtain ⟨ended, launches, adds⟩ := adds_evaluate temporary sound expressions outType
    rw [after]
    exact adds.content (spares ended content launches present)
  · intro file? given
    have iff := isSome_iff_of_run_evaluate (Prod.ext given after.symm)
    exact Option.not_isSome_iff_eq_none.symm.trans (not_congr iff)

/-- In every history of a new session, no file is given twice, and every evaluation gives a new file
that holds what its process has printed, or leaves an error; files that its process spares, among
them those given before, hold what they held. -/
theorem results_are_fresh {first session : Session} {turns : List Turn} (new : IsNew first)
    (sound : first.host.tree.Sound) (history : History SparesResults first turns session) :
    (turns.filterMap Turn.returned?).Nodup ∧
      ∀ turn ∈ turns, ∀ expressions outType, turn.request = .evaluate expressions outType →
        Evaluated first.scratch.root turn expressions outType := by
  have temporary := new.isTemporary
  have accumulated := accumulated_of_history temporary sound history
  refine ⟨accumulated.distinct, fun turn member expressions outType isEvaluation => ?_⟩
  obtain ⟨root, soundThen⟩ := accumulated.earlier turn member
  rw [← root] at temporary ⊢
  exact evaluated isEvaluation temporary soundThen

/-- A host on which the next processes print something. -/
def printingHost : Host :=
  { unresolvedHost with
    outcomes :=
      [⟨[], none, ⟨"x: 1", [], 0⟩⟩, ⟨[], none, ⟨"x: 2", [], 0⟩⟩, ⟨[], none, ⟨"x: 3", [], 0⟩⟩] }

/-- The session on the file of that host. -/
def printingSession : Session :=
  { unresolvedSession with
    host := { unresolvedSession.host with outcomes := printingHost.outcomes } }

theorem create_printingSession :
    ((create "/w/a.cue" unresolvedSession.settings (some "/w")).run printingHost).1 =
      .ok printingSession := by decide +kernel

theorem sound_printingSession : printingSession.host.tree.Sound :=
  FileTree.sound_of_entries (by decide +kernel)

/-- An evaluation in the output type of the session. -/
def plainEvaluation : Request := .evaluate (.array []) .null

/-- An evaluation as text. -/
def textEvaluation : Request := .evaluate (.array []) (.text "text")

/-- The session after an evaluation, when somebody has removed the scratch directory. -/
def emptiedSession : Session :=
  let evaluated := (plainEvaluation.perform.run printingSession).2
  { evaluated with host := evaluated.host.removeTree evaluated.scratch.root }

/-- The session after another evaluation. -/
def refilledSession : Session := (textEvaluation.perform.run emptiedSession).2

/-- Three evaluations, the second of them without the scratch directory. -/
def evaluationTurns : List Turn :=
  [⟨printingSession, plainEvaluation⟩, ⟨emptiedSession, textEvaluation⟩,
    ⟨refilledSession, plainEvaluation⟩]

theorem evaluationTurns_are_fresh :
    evaluationTurns.filterMap Turn.returned? =
      (["/tmp/cuebolt-00000001/eval00000002/eval.cue",
        "/tmp/cuebolt-00000001/eval00000003/eval.txt",
        "/tmp/cuebolt-00000001/eval00000004/eval.txt"] : List Text) ∧
    Turn.SparesFile ⟨refilledSession, plainEvaluation⟩
      "/tmp/cuebolt-00000001/eval00000003/eval.txt" ∧
    printingSession.host.tree.Sound ∧
    (evaluationTurns.filterMap Turn.returned?).Nodup ∧
    ∀ turn ∈ evaluationTurns, ∀ expressions outType,
      turn.request = .evaluate expressions outType →
        Evaluated "/tmp/cuebolt-00000001" turn expressions outType := by
  have new : IsNew printingSession := ⟨_, _, _, _, create_printingSession⟩
  have evaluated : History SparesResults printingSession [⟨printingSession, plainEvaluation⟩] _ :=
    History.opened.asked plainEvaluation
  have emptied : History SparesResults printingSession _ emptiedSession :=
    evaluated.disturbed (sparesResults_removeTree _ _)
  have refilled : History SparesResults printingSession _ refilledSession :=
    emptied.asked textEvaluation
  have writeless : (refilledSession.host.outcomes.headD .silent).writes = [] := by decide +kernel
  refine ⟨by decide +kernel, Turn.sparesFile_of_writeless writeless _, sound_printingSession, ?_⟩
  exact results_are_fresh new sound_printingSession (refilled.asked plainEvaluation)

end Session

end CueWatch
