import CueWatch.Proofs.Session.EvalData
import CueWatch.Proofs.Session.Saved

/-!
Contract: every change of what a listener shows of a session is told of.

Owns:
- `Display`, what a listener shows of a session;
- `Told`, the relation between a later session and an earlier one that says so, with its rules for
  single steps and for commands;
- `Told` for everything that a panel asks of a session, and for events on files that no
  interruption cuts short; the start need not tell of the text that it reads.

Does not own: how the display is shown (`Panel`).
-/

namespace CueWatch.Session

open Attempt

/-- What a listener shows of a session. -/
structure Display where
  diagnostics : List Diagnostic
  sourceCode : Text
  evalFile : Option Text

def display (session : Session) : Display :=
  ⟨session.state.diagnostics, session.state.sourceCode, session.state.evalFile⟩

/-- The file of a result is not forgotten. -/
def Retains (later session : Session) : Prop :=
  session.state.evalFile.isSome = true → later.state.evalFile.isSome = true

/-- What is seen of the display is as it was and the listener has heard nothing, or it has been
told. -/
structure Told {γ : Type} (see : Display → γ) (later session : Session) : Prop where
  listens : later.hasListener = session.hasListener
  retains : Retains later session
  tells : session.hasListener = true →
    (see later.display = see session.display ∧ later.notices = session.notices) ∨
      session.notices < later.notices

theorem chains_retains : Chains Retains where
  refl := fun _ isSome => isSome
  trans := fun latest later isSome => latest (later isSome)

theorem retains_of_keeps {α : Type} {step : Attempt Session α}
    (kept : Keeps (fun session => session.state.evalFile) step) : Moves Retains step := by
  intro session isSome
  have same : (step.run session).2.state.evalFile = session.state.evalFile := kept session
  rwa [same]

section

variable {α γ : Type} {see : Display → γ}

/-! ### Single steps -/

theorem Told.notices_le {later session : Session} (told : Told see later session)
    (listens : session.hasListener = true) : session.notices ≤ later.notices := by
  rcases told.tells listens with ⟨-, same⟩ | more
  · exact same.ge
  · exact more.le

theorem chains_told : Chains (Told see) where
  refl := fun _ => ⟨rfl, id, fun _ => .inl ⟨rfl, rfl⟩⟩
  trans := by
    intro session later latest last first
    refine ⟨last.listens.trans first.listens, chains_retains.trans last.retains first.retains,
      fun listens => ?_⟩
    have stillListens : later.hasListener = true := first.listens.trans listens
    rcases first.tells listens with ⟨sameDisplay, sameNotices⟩ | more
    · rcases last.tells stillListens with ⟨lastDisplay, lastNotices⟩ | more
      · exact .inl ⟨lastDisplay.trans sameDisplay, lastNotices.trans sameNotices⟩
      · exact .inr (sameNotices ▸ more)
    · exact .inr (more.trans_le (last.notices_le stillListens))

/-- The display, and what the listener has heard. -/
def shown (session : Session) : Display × (Nat × Bool) := (session.display, session.tidings)

theorem told_of_shown {session later : Session} (same : later.shown = session.shown) :
    Told see later session := by
  have displayed : later.display = session.display := congrArg Prod.fst same
  have heard : later.tidings = session.tidings := congrArg Prod.snd same
  refine ⟨congrArg Prod.snd heard, fun isSome => ?_, fun _ => .inl ⟨?_, congrArg Prod.fst heard⟩⟩
  · have sameFile : later.state.evalFile = session.state.evalFile :=
      congrArg Display.evalFile displayed
    rwa [sameFile]
  · rw [displayed]

theorem told_of_keeps {step : Attempt Session α} (kept : Keeps shown step) :
    Moves (Told see) step := fun session => told_of_shown (kept session)

/-- Whatever has changed, it is told of by a notice after it. -/
theorem told_noticed {session reached : Session} (heard : reached.tidings = session.tidings)
    (retains : Retains reached session) : Told see reached.noticed session where
  listens := congrArg Prod.snd heard
  retains := retains
  tells := by
    intro listens
    have once := noticedOnce_noticed heard
    rw [NoticedOnce, if_pos listens] at once
    exact .inr (once ▸ Nat.lt_succ_self _)

theorem told_notify : Moves (Told see) notify := fun _ => told_noticed rfl id

/-! ### Commands -/

/-- A command tells of its work; if it fails without a notice, nothing that is seen has changed. -/
theorem told_perform (action : Action) (otherwise : α) {body : Attempt Session α}
    (heard : Keeps tidings body) (retains : Moves Retains body)
    (atomic : Atomic (fun session => see session.display) body) :
    Moves (Told see) (perform action otherwise body) := by
  intro session
  have sameTidings := heard { session with state := session.state.withError [] }
  have keepsFile := retains { session with state := session.state.withError [] }
  rcases ran : body.run { session with state := session.state.withError [] } with
    ⟨failure | value, reached⟩
  · rw [ran] at sameTidings keepsFile
    rw [run_perform_of_error ran]
    by_cases escaping : escapes failure = true
    · rw [if_pos escaping]
      refine ⟨congrArg Prod.snd sameTidings, keepsFile, fun _ => .inl ⟨?_, ?_⟩⟩
      · exact atomic { session with state := session.state.withError [] } failure reached ran
      · exact congrArg Prod.fst sameTidings
    · rw [if_neg escaping]
      exact told_noticed sameTidings keepsFile
  · rw [ran] at sameTidings keepsFile
    rw [run_perform_of_ok ran]
    exact told_noticed sameTidings keepsFile

theorem told_lint : Moves (Told see) lint := by
  refine chains_told.bind (chains_told.look id) fun session => ?_
  refine chains_told.bind (told_of_keeps (keeps_onHost (fun _ _ => rfl) _)) fun _ => ?_
  refine told_perform .lint () keeps_tidings_lintBody (retains_of_keeps ?_) ?_
  · exact keeps_lintBody (fun _ _ => rfl) fun _ _ _ _ _ _ => rfl
  · exact atomic_lintBody (fun _ _ => rfl) fun _ _ => rfl

theorem retains_evaluateBody (expressions outType : Settings.Value) :
    Moves Retains (evaluateBody expressions outType) := by
  have hostRetains : ∀ {β : Type} (step : Attempt Host β), Moves Retains (onHost step) :=
    fun step => retains_of_keeps (keeps_onHost (fun _ _ => rfl) step)
  refine chains_retains.bind (chains_retains.require _) fun directory => ?_
  refine chains_retains.bind (chains_retains.ofExcept _) fun items => ?_
  refine chains_retains.bind (chains_retains.look _) fun session => ?_
  refine chains_retains.bind (hostRetains _) fun output => ?_
  refine chains_retains.bind (hostRetains _) fun place => ?_
  refine chains_retains.bind (chains_retains.ofExcept _) fun format => ?_
  refine chains_retains.bind (hostRetains _) fun _ => ?_
  exact chains_retains.bind (fun _ _ => rfl) fun _ => chains_retains.pure _

theorem told_evaluate (expressions outType : Settings.Value) :
    Moves (Told see) (evaluate expressions outType) := by
  refine chains_told.bind (chains_told.look _) fun chosen => ?_
  refine told_perform .evaluate none ?_ (retains_evaluateBody expressions chosen) ?_
  · exact keeps_evaluateBody (fun _ _ => rfl) (fun _ _ _ _ _ => rfl) expressions chosen
  · exact atomic_evaluateBody (fun _ _ => rfl) expressions chosen

theorem told_format : Moves (Told see) format := by
  refine told_perform .format () ?_ (retains_of_keeps ?_) ?_
  · exact keeps_formatBody (fun _ _ => rfl) fun _ _ _ => rfl
  · exact keeps_formatBody (fun _ _ => rfl) fun _ _ _ => rfl
  · exact atomic_formatBody fun _ _ => rfl

/-! ### Settings -/

theorem told_changeSetting (key : Text) (value : Settings.Value) :
    Moves (Told see) (changeSetting key value) :=
  told_of_keeps (keeps_changeSetting (fun _ _ => rfl) (fun _ _ => rfl) key value)

theorem told_setOutType (outType : Settings.Value) : Moves (Told see) (setOutType outType) :=
  chains_told.bind (told_of_keeps (keeps_updateState fun _ => rfl)) fun _ =>
    told_changeSetting _ _

theorem told_setFlags (flags : Settings.Value) : Moves (Told see) (setFlags flags) := by
  refine chains_told.bind ?_ fun _ => told_lint
  refine chains_told.bind (chains_told.ofExcept _) fun items => ?_
  refine chains_told.bind (told_of_keeps (Keeps.change fun _ => rfl)) fun _ => ?_
  refine chains_told.bind (told_of_keeps (keeps_updateState fun _ => rfl)) fun _ => ?_
  refine chains_told.bind (told_changeSetting _ _) fun _ => ?_
  exact told_of_keeps (Keeps.change fun _ => rfl)

/-- The findings are withdrawn only when the settings have been written, and then it is told. -/
theorem told_setLintOnSave (enabled : Settings.Value) :
    Moves (Told see) (setLintOnSave enabled) := by
  refine chains_told.bind (told_changeSetting _ _) fun _ => ?_
  refine chains_told.bind (told_of_keeps (Keeps.change fun _ => rfl)) fun _ => ?_
  intro session
  have withdrawn : Retains ((updateState fun state =>
      { state with diagnostics := [], statusMessage := lintOnSaveMessage enabled.isSet }).run
        session).2 session := id
  exact told_noticed rfl withdrawn

/-! ### The start and saves -/

/-- A start that is cut short by its lint has read the text without telling of it. -/
theorem told_start (blind : ∀ display text, see { display with sourceCode := text } = see display) :
    Moves (Told see) Session.start := by
  have reloads : Moves (Told see) reloadSource := by
    refine chains_told.bind (chains_told.require _) fun text session => ?_
    exact ⟨rfl, id, fun _ => .inl ⟨blind session.display text, rfl⟩⟩
  have watches : ∀ change, Moves (Told see) (watching.update change) :=
    fun change => told_of_keeps (Keeps.change fun _ => rfl)
  refine chains_told.bind ?_ fun _ => chains_told.bind (chains_told.look _) fun source => ?_
  · refine chains_told.bind reloads fun _ => chains_told.bind (chains_told.look _) fun onSave => ?_
    exact Moves.ite told_lint told_notify
  · refine chains_told.bind (chains_told.require _) fun registration => ?_
    refine chains_told.bind (watches _) fun _ => ?_
    refine chains_told.bind (chains_told.require _) fun launched => ?_
    refine chains_told.bind (watches _) fun _ => ?_
    exact told_of_keeps (keeps_onHost (fun _ _ => rfl) _)

/-- A failure that cuts a step short. -/
def Interrupts (failure : Failure) : Prop := failure.isInterrupt = true

theorem retains_saved (path : Text) : Moves Retains (saved path) := by
  have kept : Keeps evalData (Request.saved path).perform :=
    ignoresLints_evalData.keeps_perform (by rintro _ _ ⟨⟩) (by rintro _ ⟨⟩)
  exact retains_of_keeps fun session => congrArg EvalData.file? (kept session)

/-- A save tells of what it has read and found, even if the `cue` program is missing; if the file
cannot be read, nothing has changed. -/
theorem told_saved (path : Text) : MovesUnless Interrupts (Told see) (saved path) := by
  intro session goesOn
  have kept := keeps_fixture_perform (.saved path) session
  have listens : ((saved path).run session).2.hasListener = session.hasListener :=
    congrArg Fixture.hasListener kept
  have retained := retains_saved path session
  have ends := saveEnd path session
  rcases ran : (saved path).run session with ⟨failure | _, reached⟩
  · rw [ran] at goesOn ends
    cases ends with
    | escaped escaping only =>
        rcases escaping with ⟨unread, illegible⟩ | ⟨linted, begun, failed, interrupts⟩
        · rw [run_saved_of_error unread, illegible.notSystem, if_neg Bool.false_ne_true] at ran
          obtain ⟨-, rfl⟩ := Prod.mk.inj ran
          exact told_of_shown rfl
        · exact absurd interrupts (goesOn failure rfl)
  · rw [ran] at ends listens retained
    cases ends with
    | dealt none noticed =>
        refine ⟨listens, retained, fun listening => ?_⟩
        have once := noticed.once
        rw [NoticedOnce, if_pos listening] at once
        exact .inr (once ▸ Nat.lt_succ_self _)

/-- An event is handed to one registration after another; each time it is told of a save. -/
theorem told_receive (event : Watch.FileEvent) :
    MovesUnless Interrupts (Told see) (Session.receive event) := by
  have quietly : ∀ {α : Type} {step : Attempt Session α}, Moves (Told see) step →
      MovesUnless Interrupts (Told see) step := fun moves => moves.unless Interrupts
  have notifies : ∀ position, MovesUnless Interrupts (Told see)
      (watching.notifyAt saved event position) := by
    intro position
    refine chains_told.bind_unless (quietly (chains_told.look _)) fun registration => ?_
    cases registration with
    | none => exact quietly (chains_told.pure ())
    | some registration =>
        refine chains_told.bind_unless (quietly (chains_told.require _)) fun triggers => ?_
        cases triggers with
        | false => exact quietly (chains_told.pure ())
        | true =>
            refine chains_told.bind_unless (quietly (told_of_keeps fun _ => rfl)) fun _ => ?_
            refine chains_told.bind_unless (told_saved _) fun _ => ?_
            exact quietly (told_of_keeps (Keeps.change fun _ => rfl))
  have notifiesEach : ∀ positions, MovesUnless Interrupts (Told see)
      (watching.notifyEach (fun _ => saved) event positions) := by
    intro positions
    induction positions with
    | nil => exact quietly (chains_told.pure ())
    | cons position rest inductionHypothesis =>
        exact chains_told.bind_unless (notifies position) fun _ => inductionHypothesis
  exact chains_told.bind_unless (quietly (chains_told.look _)) fun count => notifiesEach _

end

end CueWatch.Session
