import CueWatch.Proofs.Attempt
import CueWatch.Session.Engine

/-!
Contract: what the small steps of a session leave as it was.

Owns:
- `Overlooks`, the views that see neither messages, nor the journal, nor how often the listener has
  been told; every command reports and tells alike, so such views see only what its body does;
- the rules by which a view is kept by a step on the host, a change of the state and a change of a
  setting;
- how a command ends, by the outcome of its body;
- `Fails`, that a command fails, told from outside: a failure escapes or is the last error; and what
  a command that fails leaves as it was.

Does not own: any particular view.
-/

namespace CueWatch.Session

open Attempt

variable {α γ : Type} {view : Session → γ}

/-! ### Single steps -/

theorem keeps_onHost (kept : ∀ session host, view { session with host := host } = view session)
    (step : Attempt Host α) : Keeps view (onHost step) :=
  Keeps.within step fun host session => kept session host

theorem keeps_updateState {change : State → State}
    (kept : ∀ session, view { session with state := change session.state } = view session) :
    Keeps view (updateState change) := kept

theorem keeps_changeSetting
    (hostKept : ∀ session host, view { session with host := host } = view session)
    (settingsKept : ∀ session settings,
      view { session with settings := settings } = view session)
    (key : Text) (value : Settings.Value) : Keeps view (changeSetting key value) := by
  refine Keeps.bind (Keeps.change fun session => settingsKept session _) fun _ => ?_
  exact Keeps.bind (Keeps.look _) fun settings => keeps_onHost hostKept settings.save

/-! ### Messages, the journal and the listener -/

/-- A view that sees neither messages, nor the journal, nor how often the listener has been told. -/
structure Overlooks (view : Session → γ) : Prop where
  journal : ∀ session journal,
    view { session with host := { session.host with journal := journal } } = view session
  messages : ∀ session status error,
    view { session with
      state := { session.state with statusMessage := status, lastError := error } } = view session
  notices : ∀ session notices, view { session with notices := notices } = view session

namespace Overlooks

theorem keeps_log (overlooks : Overlooks view) (level : Journal.Level) (text : Text) :
    Keeps view (onHost (Host.log level text)) :=
  fun session => overlooks.journal session _

theorem keeps_withStatus (overlooks : Overlooks view) (message : Text) :
    Keeps view (updateState (State.withStatus message)) :=
  fun session => overlooks.messages session message session.state.lastError

theorem keeps_withError (overlooks : Overlooks view) (message : Text) :
    Keeps view (updateState (State.withError message)) :=
  fun session => overlooks.messages session session.state.statusMessage message

theorem keeps_notify (overlooks : Overlooks view) : Keeps view notify :=
  fun session => overlooks.notices session _

theorem keeps_report (overlooks : Overlooks view) (action : Action) (failure : Failure) :
    Keeps view (report action failure) := by
  refine Keeps.bind (fun session => ?_) fun _ => overlooks.keeps_log _ _
  exact overlooks.messages session (failureMessage action failure) (failureMessage action failure)

/-- What a command does beyond its body is overlooked. -/
theorem view_perform (overlooks : Overlooks view) (action : Action) (otherwise : α)
    (body : Attempt Session α) (session : Session) :
    view ((perform action otherwise body).run session).2 =
      view (body.run { session with state := session.state.withError [] }).2 := by
  have handled : ∀ failure, Keeps view
      (if escapes failure then Attempt.fail failure
        else do
          report action failure
          pure otherwise : Attempt Session α) := by
    intro failure
    refine Keeps.ite (Keeps.fail failure) ?_
    exact Keeps.bind (overlooks.keeps_report action failure) fun _ => Keeps.pure otherwise
  have told : ∀ result : α, Keeps view (do
      notify
      pure result : Attempt Session α) :=
    fun result => Keeps.bind overlooks.keeps_notify fun _ => Keeps.pure result
  change view ((body.rescue _ >>= _).run { session with state := session.state.withError [] }).2 = _
  rw [view_run_bind _ told, view_run_rescue _ handled]

/-- A command keeps what its body keeps. -/
theorem keeps_perform (overlooks : Overlooks view) (action : Action) (otherwise : α)
    {body : Attempt Session α} (kept : Keeps view body) :
    Keeps view (perform action otherwise body) := by
  intro session
  rw [overlooks.view_perform action otherwise body, kept]
  exact overlooks.keeps_withError [] session

end Overlooks

/-! ### How a command ends -/

/-- A message about a failed command says something. -/
theorem failureMessage_ne_nil (action : Action) (failure : Failure) :
    failureMessage action failure ≠ [] := by
  have begins : ∀ rest : Text, ("Failed to " : Text) ++ rest ≠ [] :=
    fun rest => List.append_ne_nil_of_left_ne_nil (List.cons_ne_nil _ _) rest
  unfold failureMessage
  split
  · unfold moduleRootGuidance
    exact List.append_ne_nil_of_left_ne_nil (List.cons_ne_nil _ _) _
  · simp only [List.append_assoc]
    exact begins _
  · simp only [List.append_assoc]
    exact begins _

@[simp]
theorem state_notify (session : Session) : (notify.run session).2.state = session.state := rfl

@[simp]
theorem lastError_report (action : Action) (failure : Failure) (session : Session) :
    ((report action failure).run session).2.state.lastError = failureMessage action failure := rfl

theorem run_perform_of_ok {action : Action} {otherwise value : α} {body : Attempt Session α}
    {session reached : Session}
    (succeeded : body.run { session with state := session.state.withError [] } =
      (.ok value, reached)) :
    (perform action otherwise body).run session = (.ok value, (notify.run reached).2) := by
  change (body.rescue _ >>= _).run { session with state := session.state.withError [] } = _
  rw [run_bind, run_rescue, succeeded]
  rfl

theorem run_perform_of_error {action : Action} {otherwise : α} {body : Attempt Session α}
    {session reached : Session} {failure : Failure}
    (failed : body.run { session with state := session.state.withError [] } =
      (.error failure, reached)) :
    (perform action otherwise body).run session =
      if escapes failure then (.error failure, reached)
      else (.ok otherwise, (notify.run ((report action failure).run reached).2).2) := by
  change (body.rescue _ >>= _).run { session with state := session.state.withError [] } = _
  rw [run_bind, run_rescue, failed]
  by_cases escaping : escapes failure
  · simp [escaping]
  · simp only [escaping]
    rfl

/-- A command that gives a value has been given it by its body, or has reported why its body
failed. -/
theorem exists_of_run_perform_ok {action : Action} {otherwise value : α}
    {body : Attempt Session α} {session reached : Session}
    (succeeded : (perform action otherwise body).run session = (.ok value, reached)) :
    (∃ between, body.run { session with state := session.state.withError [] } =
        (.ok value, between) ∧ reached = (notify.run between).2) ∨
      value = otherwise ∧ ∃ failure between,
        body.run { session with state := session.state.withError [] } = (.error failure, between) ∧
        reached = (notify.run ((report action failure).run between).2).2 := by
  rcases ran : body.run { session with state := session.state.withError [] } with
    ⟨failure | given, between⟩
  · rw [run_perform_of_error ran] at succeeded
    split at succeeded
    next => cases succeeded
    next =>
      obtain ⟨same, rfl⟩ := Prod.mk.inj succeeded
      exact .inr ⟨(Except.ok.inj same).symm, failure, between, rfl, rfl⟩
  · rw [run_perform_of_ok ran] at succeeded
    obtain ⟨same, rfl⟩ := Prod.mk.inj succeeded
    obtain rfl := Except.ok.inj same
    exact .inl ⟨between, rfl, rfl⟩

/-! ### Commands that fail -/

/-- A command fails: a failure escapes from it, or it has reported one, which is the last error. -/
def Fails (command : Attempt Session α) (session : Session) : Prop :=
  (∃ failure, (command.run session).1 = .error failure) ∨
    (command.run session).2.state.lastError ≠ []

/-- The last error of a session. -/
def lastError (session : Session) : Text := session.state.lastError

/-- A command fails exactly when its body does, whatever the last error was before it. -/
theorem fails_perform_iff (action : Action) (otherwise : α) {body : Attempt Session α}
    (quiet : Keeps lastError body) (session : Session) :
    Fails (perform action otherwise body) session ↔
      ∃ failure, (body.run { session with state := session.state.withError [] }).1 =
        .error failure := by
  have kept := quiet { session with state := session.state.withError [] }
  rcases ran : body.run { session with state := session.state.withError [] } with
    ⟨failure | value, reached⟩
  · rw [Fails, run_perform_of_error ran]
    by_cases escaping : escapes failure
    · simp [escaping]
    · simp [escaping, failureMessage_ne_nil]
  · rw [ran] at kept
    have silent : reached.state.lastError = [] := kept
    rw [Fails, run_perform_of_ok ran]
    simp [silent]

/-- A command that fails keeps what its body leaves as it was when it fails. -/
theorem Overlooks.view_perform_of_fails (overlooks : Overlooks view) {action : Action}
    {otherwise : α} {body : Attempt Session α} (quiet : Keeps lastError body)
    (atomic : Atomic view body) {session : Session}
    (fails : Fails (perform action otherwise body) session) :
    view ((perform action otherwise body).run session).2 = view session := by
  obtain ⟨failure, failed⟩ := (fails_perform_iff action otherwise quiet session).mp fails
  have same := atomic { session with state := session.state.withError [] } failure _
    (Prod.ext failed rfl)
  rw [overlooks.view_perform, same]
  exact overlooks.keeps_withError [] session

end CueWatch.Session
