import CueWatch.Panel.App
import CueWatch.Panel.Markup.Balance
import CueWatch.Proofs.Session.Vetting
import CueWatch.Proofs.Text.Words

/-!
Contract: the prompt for flags, opened and submitted as it was filled.

Owns:
- what the prompt is filled with, and which flags are stored when that text is submitted and the bar
  can show it;
- that the flags stored are those in force exactly if each of them is one word, and that the file is
  then vetted with the same arguments as before.

Does not own: which process a lint starts (`Proofs.Session.Launch`, `Proofs.Session.Vetting`), and
texts that the bar cannot show.
-/

namespace CueWatch

open Attempt

namespace Session

/-- A lint with flags that are texts hands them over as they are. -/
theorem argv_of_vetCommand?_of_words {session : Session} {command : CueWatch.Command}
    {flags : List Text} (inForce : session.lintFlags = .array (Cue.words flags))
    (told : session.vetCommand? = some command) :
    ∃ program, session.cue.path = some program ∧
      command.argv = program :: "vet" :: session.source :: (flags ++ [Cue.concreteFlag]) := by
  unfold vetCommand? at told
  split at told
  next root located =>
    obtain ⟨program, texts, found, isSpread, rfl⟩ := argv_of_vetCommand? told
    rw [inForce] at isSpread
    obtain rfl := Cue.words_inj (Except.ok.inj isSpread)
    exact ⟨program, found, rfl⟩
  next => cases told

/-- Flags that have been stored are in force. -/
theorem lintFlags_of_storeFlags {items : List Settings.Value} {session stored : Session}
    (saved : (storeFlags (.array items)).run session = (.ok (), stored)) :
    stored.lintFlags = .array items := by
  have kept : Keeps Session.lintFlags (do
      updateState fun state => { state with lintFlags := items }
      changeSetting "lint_flags" (.array items)
      withdrawAll) := by
    refine Keeps.bind (keeps_updateState fun _ => rfl) fun _ => ?_
    refine Keeps.bind ?_ fun _ => Keeps.change fun _ => rfl
    exact Keeps.bind (Keeps.change fun _ => rfl) fun _ => Keeps.bind (Keeps.look _) fun _ =>
      keeps_onHost (fun _ _ => rfl) _
  have same := kept { session with lintFlags := .array items }
  have begins := congrArg Prod.snd saved
  exact (congrArg Session.lintFlags begins).symm.trans same

end Session

namespace Panel.App

/-! ### Opening and submitting -/

/-- The panel with the prompt for flags open on a text. -/
def prompting (text : Text) (app : App) : App := { app with prompt := some ⟨.flags, text⟩ }

/-- The panel when the prompt has been closed and the bar tells a text as the flags. -/
def telling (text : Text) (app : App) : App :=
  { app with
    prompt := none
    bar := app.bar.apply { StatusBar.Change.none with flags := some text } }

/-- The prompt is filled with the flags in force, one blank between each two neighbours. -/
theorem run_editFlags {app : App} {flags : List Text}
    (inForce : app.session.lintFlags = .array (Cue.words flags)) :
    (handle .editFlags).run app = (.ok (), app.prompting (Text.join " " flags)) := by
  have text : flagsText app.session = .ok (Text.join " " flags) := by
    rw [flagsText, inForce]
    change (do
      let strings ← Cue.argumentStrings 0 (Cue.words flags)
      .ok (Text.join " " (strings.map Settings.Key.shown))) = _
    rw [Cue.argumentStrings_words]
    change Except.ok (Text.join " " ((flags.map Settings.Key.text).map Settings.Key.shown)) = _
    rw [Cue.map_shown_map_text]
  rw [handle, run_bind_of_ok (run_look _ app), text, ofExcept_bind_ok]
  rfl

/-- A command that has been run leaves the session as the command does. -/
theorem session_runCommand {α : Type} (command : Attempt Session α) (app : App) :
    ((runCommand command).run app).2.session = (command.run app.session).2 := by
  have complaint : ∀ failure : Failure, Keeps App.session
      (if failure.isCueMissing then showStatus failure.message else Attempt.fail failure) := by
    intro failure
    refine Keeps.ite ?_ (Keeps.fail failure)
    exact Keeps.bind (Keeps.change fun _ => rfl) fun _ => Keeps.require _
  refine (view_run_rescue _ complaint app).trans ?_
  exact view_run_bind (onSession command) (fun _ => Keeps.pure ()) app

/-- The bar of a panel can show its text. -/
def BarShows (app : App) : Prop := app.reading app.bar.text = .ok ()

/-- A text that is submitted for flags is told in the bar, and its words are the new flags. -/
theorem run_submit {app : App} {value text : Text} (opened : app.prompt = some ⟨.flags, value⟩)
    (shows : (app.telling text).BarShows) :
    (handle (.submit text)).run app =
      (runCommand (Session.setFlags (.array (Cue.words (Text.words text))))).run
        (app.telling text) := by
  have closed : hidePrompt.run app = (.ok (), { app with prompt := none }) := rfl
  have told : (changeBar { StatusBar.Change.none with flags := some text }).run
      { app with prompt := none } = (.ok (), app.telling text) :=
    congrArg (·, app.telling text) shows
  rw [handle, run_bind_of_ok (run_look _ app), run_bind_of_ok closed, opened]
  exact run_bind_of_ok told

/-- The vet after new flags, if there is one, is called with them. -/
theorem argv_of_setFlags {flags : List Text} {session : Session} {command : CueWatch.Command}
    (told : (Session.Request.setFlags (.array (Cue.words flags))).command? session =
      some command) :
    ∃ program, session.cue.path = some program ∧
      command.argv = program :: "vet" :: session.source :: (flags ++ [Cue.concreteFlag]) := by
  obtain ⟨linted, begins, vets⟩ := Option.bind_eq_some_iff.mp told
  obtain ⟨same, -⟩ := Session.of_lintedFrom? begins
  have source : linted.source = session.source := congrArg Session.Fixture.source same
  have cue : linted.cue = session.cue := congrArg Session.Fixture.cue same
  rw [Session.Request.lintedFrom?] at begins
  split at begins
  next reached stored =>
    obtain rfl := Option.some.inj begins
    rw [← source, ← cue]
    exact Session.argv_of_vetCommand?_of_words (Session.lintFlags_of_storeFlags stored) vets
  next => cases begins

/-! ### The text as it was filled -/

/-- What the prompt is filled with: the flags in force, one blank between each two neighbours. -/
def prefill (flags : List Text) : Text := Text.join " " flags

/-- What is asked of the session by that text: the words of the flags are its new flags. -/
def resubmission (flags : List Text) : Session.Request :=
  .setFlags (.array (Cue.words (flags.flatMap Text.words)))

/-- What becomes of flags when the prompt is opened and submitted as it was filled. -/
structure Resubmitted (app : App) (flags : List Text) : Prop where
  opens : (handle .editFlags).run app = (.ok (), app.prompting (prefill flags))
  asks : (app.telling (prefill flags)).BarShows →
    (handle (.submit (prefill flags))).run (app.prompting (prefill flags)) =
      (runCommand (resubmission flags).perform).run (app.telling (prefill flags))
  starts : (app.telling (prefill flags)).BarShows →
    ((handle (.submit (prefill flags))).run
      (app.prompting (prefill flags))).2.session.host.spawned =
        app.session.host.spawned ++ ((resubmission flags).command? app.session).toList
  kept_iff : flags.flatMap Text.words = flags ↔ ∀ flag ∈ flags, Text.IsWord flag
  calls : (∀ flag ∈ flags, Text.IsWord flag) → ∀ before after,
    app.session.vetCommand? = some before →
    (resubmission flags).command? app.session = some after → after.argv = before.argv

/-- The prompt for flags is filled with the flags in force. If the bar can show that text, submitting
it as it is sets the words of the flags, in order, as the new flags. The words are the flags in force
exactly if each of those is one word, and then the process that vets the file is called as it was
called before. -/
theorem prefilled_flags_submitted {app : App} {flags : List Text}
    (inForce : app.session.lintFlags = .array (Cue.words flags)) : Resubmitted app flags := by
  have words : Text.words (prefill flags) = flags.flatMap Text.words :=
    Text.words_join (c := ' ') (by decide) flags
  have submitted (shows : (app.telling (prefill flags)).BarShows) :
      (handle (.submit (prefill flags))).run (app.prompting (prefill flags)) =
        (runCommand (resubmission flags).perform).run (app.telling (prefill flags)) := by
    have opened : (app.prompting (prefill flags)).prompt = some ⟨.flags, prefill flags⟩ := rfl
    rw [resubmission, ← words]
    exact run_submit opened shows
  refine ⟨run_editFlags inForce, submitted, fun shows => ?_, Text.flatMap_words_eq_self_iff flags,
    fun areWords before after vetted told => ?_⟩
  · rw [submitted shows, session_runCommand]
    exact Session.commands_perform (resubmission flags) app.session
  · rw [resubmission, (Text.flatMap_words_eq_self_iff flags).mpr areWords] at told
    obtain ⟨program, found, called⟩ := argv_of_setFlags told
    obtain ⟨same, foundBefore, calledBefore⟩ :=
      Session.argv_of_vetCommand?_of_words inForce vetted
    rw [found] at foundBefore
    obtain rfl := Option.some.inj foundBefore
    rw [called, calledBefore]

/-- The panel of a session on a file in a module, with flags in force. -/
def flaggedApp (flags : List Text) : App :=
  ofSession Markup.check
    { Session.unresolvedSession with
      lintFlags := .array (Cue.words flags)
      state := { Session.State.initial with lintFlags := Cue.words flags } }

/-- Two flags, each of them one word. -/
def tagFlags : List Text := ["-t", "env=prod"]

/-- A flag and its value, with a blank in it. -/
def spacedFlags : List Text := ["-t", "env=a b"]

theorem tag_flags_kept :
    tagFlags.flatMap Text.words = tagFlags ∧
    ((handle (.submit "-t env=prod")).run
      ((flaggedApp tagFlags).prompting "-t env=prod")).2.session.host.spawned =
        [⟨["/bin/cue", "vet", "/w/a.cue", "-t", "env=prod", "-c"], some "/w"⟩] := by
  have areWords : ∀ flag ∈ tagFlags, Text.IsWord flag := by decide +kernel
  have resubmitted : Resubmitted (flaggedApp tagFlags) tagFlags := prefilled_flags_submitted rfl
  refine ⟨resubmitted.kept_iff.mpr areWords, ?_⟩
  have shows : ((flaggedApp tagFlags).telling (prefill tagFlags)).BarShows := by
    unfold BarShows
    decide +kernel
  have started := resubmitted.starts shows
  rw [show (resubmission tagFlags).command? (flaggedApp tagFlags).session =
    some ⟨["/bin/cue", "vet", "/w/a.cue", "-t", "env=prod", "-c"], some "/w"⟩ by decide +kernel]
    at started
  exact started

/-- A flag with a blank in it comes back as two, and the file is vetted with these. -/
theorem spaced_flag_splits :
    (flaggedApp spacedFlags).session.vetCommand? =
      some ⟨["/bin/cue", "vet", "/w/a.cue", "-t", "env=a b", "-c"], some "/w"⟩ ∧
    ((handle .editFlags).run (flaggedApp spacedFlags)).1 = .ok () ∧
    ((handle .editFlags).run (flaggedApp spacedFlags)).2.prompt = some ⟨.flags, "-t env=a b"⟩ ∧
    ((handle (.submit "-t env=a b")).run
      ((handle .editFlags).run (flaggedApp spacedFlags)).2).2.session.host.spawned =
        [⟨["/bin/cue", "vet", "/w/a.cue", "-t", "env=a", "b", "-c"], some "/w"⟩] :=
  ⟨by decide +kernel, by decide +kernel, by decide +kernel, by decide +kernel⟩

end Panel.App

end CueWatch
