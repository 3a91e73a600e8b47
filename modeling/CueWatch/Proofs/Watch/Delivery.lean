import CueWatch.Proofs.Attempt
import CueWatch.Watch.Watcher

/-!
Contract: who is told when a watcher is handed an event.

Owns:
- `Scene`, a watcher with its host and the calls of callbacks so far, and `callback`, which records
  its call and may then do anything to the host;
- `Watcher.targets`, the files that a watcher was asked to watch, in order;
- `Call.IsFor`, what makes a call follow from an event, and `Heard`, which says that nothing but
  such calls is made when an event is handed over, whatever the callbacks do.

Does not own: starts and stops (`LifeCycle`).
-/

namespace CueWatch.Watch

open Attempt

/-- A call of the callback at a position, with the path it is given and the host it is given it
on. -/
structure Call where
  position : Nat
  file : Text
  host : Host

/-- A watcher with its host, and the calls of callbacks so far. -/
structure Scene where
  host : Host
  watcher : Watcher
  calls : List Call

/-- What the callback at each position does when it is given a path. -/
abbrev Reactions : Type := Nat → Text → Attempt Host Unit

namespace Scene

def setting : Setting Scene where
  host := Scene.host
  setHost := fun host scene => { scene with host := host }
  watcher := Scene.watcher
  setWatcher := fun watcher scene => { scene with watcher := watcher }

def withCall (call : Call) (scene : Scene) : Scene :=
  { scene with calls := scene.calls ++ [call] }

/-- The callback at a position: its call is recorded, and then it does what it does. -/
def callback (reactions : Reactions) (position : Nat) (file : Text) : Attempt Scene Unit := do
  Attempt.change fun scene => scene.withCall ⟨position, file, scene.host⟩
  setting.onHost (reactions position file)

end Scene

/-- The files that a watcher was asked to watch, without links, in the order of registration. -/
def Watcher.targets (watcher : Watcher) : List Text :=
  watcher.registrations.map fun registration => registration.handler.target

@[simp]
theorem Watcher.targets_initial : Watcher.initial.targets = [] := rfl

@[simp]
theorem Watcher.targets_register (watcher : Watcher) (registration : Registration) :
    (watcher.register registration).targets = watcher.targets ++ [registration.handler.target] :=
  List.map_append

@[simp]
theorem Watcher.targets_markTriggered (position : Nat) (moment : Moment) (watcher : Watcher) :
    (watcher.markTriggered position moment).targets = watcher.targets := by
  refine List.ext_getElem? fun other => ?_
  simp only [targets, markTriggered, List.getElem?_map, List.getElem?_modify]
  cases watcher.registrations[other]? with
  | none => rfl
  | some registration =>
      simp only [Option.map_some]
      split <;> rfl

/-- Only a running watcher has live registrations. -/
theorem Watcher.of_live {watcher : Watcher} {position : Nat} {registration : Registration}
    (found : watcher.live[position]? = some registration) :
    watcher.phase = .running ∧ watcher.targets[position]? = some registration.handler.target := by
  unfold live at found
  split at found
  next running => exact ⟨running, by rw [targets, List.getElem?_map, found]; rfl⟩
  next => cases found

/-- A save is an event on no directory whose path leads to the handler's file. -/
theorem SaveHandler.of_triggers {handler : SaveHandler} {event : FileEvent} {host : Host}
    (triggers : handler.triggers event host = .ok true) :
    event.isDirectory = false ∧
      ∃ path, host.settled event.path = .ok path ∧ path.text = handler.target := by
  unfold SaveHandler.triggers concerns at triggers
  split at triggers
  next => cases triggers
  next noDirectory =>
    cases settled : host.settled event.path with
    | error failure =>
        rw [settled] at triggers
        cases triggers
    | ok path =>
        rw [settled] at triggers
        have both := Except.ok.inj triggers
        rw [Bool.and_eq_true, decide_eq_true_eq] at both
        exact ⟨by simpa using noDirectory, path, rfl, both.1⟩

/-- A call follows from an event: the watcher runs, the callback belongs to the file that it is
given, and the event is on no directory and has a path that leads to that file. -/
structure Call.IsFor (call : Call) (event : FileEvent) (watcher : Watcher) : Prop where
  running : watcher.phase = .running
  own : watcher.targets[call.position]? = some call.file
  noDirectory : event.isDirectory = false
  settles : ∃ path, call.host.settled event.path = .ok path ∧ path.text = call.file

/-- A watcher has been handed an event: it runs as before and watches the same files, and all calls
that were made follow from the event. -/
structure Heard (event : FileEvent) (later scene : Scene) : Prop where
  phase : later.watcher.phase = scene.watcher.phase
  targets : later.watcher.targets = scene.watcher.targets
  calls : ∃ made, later.calls = scene.calls ++ made ∧ ∀ call ∈ made, call.IsFor event scene.watcher

section

variable {event : FileEvent} {later scene : Scene}

theorem heard_of_quiet (phase : later.watcher.phase = scene.watcher.phase)
    (targets : later.watcher.targets = scene.watcher.targets) (calls : later.calls = scene.calls) :
    Heard event later scene :=
  ⟨phase, targets, [], by rw [calls, List.append_nil], nofun⟩

theorem chains_heard : Chains (Heard event) where
  refl := fun _ => heard_of_quiet rfl rfl rfl
  trans := by
    intro scene later latest last first
    obtain ⟨firstMade, firstCalls, firstFor⟩ := first.calls
    obtain ⟨lastMade, lastCalls, lastFor⟩ := last.calls
    refine ⟨last.phase.trans first.phase, last.targets.trans first.targets, firstMade ++ lastMade,
      by rw [lastCalls, firstCalls, List.append_assoc], fun call member => ?_⟩
    rcases List.mem_append.mp member with early | late
    · exact firstFor call early
    · have isFor := lastFor call late
      exact ⟨first.phase.symm.trans isFor.running, by rw [← first.targets, isFor.own],
        isFor.noDirectory, isFor.settles⟩

theorem heard_onHost {α : Type} (step : Attempt Host α) :
    Moves (Heard event) (Scene.setting.onHost step) :=
  fun _ => heard_of_quiet rfl rfl rfl

theorem heard_callback {reactions : Reactions} {position : Nat} {file : Text}
    (isFor : Call.IsFor ⟨position, file, scene.host⟩ event scene.watcher) :
    Heard event ((Scene.callback reactions position file).run scene).2 scene := by
  refine chains_heard.bind_at ?_ fun _ => heard_onHost _
  refine ⟨rfl, rfl, [⟨position, file, scene.host⟩], rfl, fun call member => ?_⟩
  rwa [List.mem_singleton.mp member]

theorem heard_notifyAt (reactions : Reactions) (position : Nat) :
    Moves (Heard event)
      (Scene.setting.notifyAt (Scene.callback reactions position) event position) := by
  intro scene
  rw [Setting.notifyAt, run_bind, run_look]
  dsimp only
  cases found : (Scene.setting.watcher scene).live[position]? with
  | none => exact chains_heard.refl scene
  | some registration =>
      obtain ⟨running, own⟩ := Watcher.of_live found
      dsimp only
      rw [run_bind, run_require]
      cases triggers : registration.handler.triggers event (Scene.setting.host scene) with
      | error failure => exact chains_heard.refl scene
      | ok counts =>
          cases counts with
          | false => exact chains_heard.refl scene
          | true =>
              obtain ⟨noDirectory, settles⟩ := SaveHandler.of_triggers triggers
              -- The record in the journal does not change what paths lead to.
              let logged := ((Scene.setting.onHost (Host.log .debug
                ("save detected: " ++ registration.handler.target))).run scene).2
              have isFor : Call.IsFor ⟨position, registration.handler.target, logged.host⟩ event
                  logged.watcher := ⟨running, own, noDirectory, settles⟩
              have rest : Heard event
                  ((Scene.callback reactions position registration.handler.target >>= fun _ =>
                    Scene.setting.update (Watcher.markTriggered position event.moment)).run
                      logged).2 logged :=
                chains_heard.bind_at (heard_callback isFor) fun _ _ =>
                  heard_of_quiet rfl (Watcher.targets_markTriggered _ _ _) rfl
              exact chains_heard.trans rest (heard_onHost _ scene)

theorem heard_notifyEach (reactions : Reactions) (positions : List Nat) :
    Moves (Heard event)
      (Scene.setting.notifyEach (Scene.callback reactions) event positions) := by
  induction positions with
  | nil => exact chains_heard.pure ()
  | cons position rest inductionHypothesis =>
      exact chains_heard.bind (heard_notifyAt reactions position) fun _ => inductionHypothesis

/-- When a watcher is handed an event, nothing but calls that follow from the event is made. -/
theorem heard_deliverEach (reactions : Reactions) :
    Moves (Heard event) (Scene.setting.deliverEach (Scene.callback reactions) event) :=
  chains_heard.bind (chains_heard.look _) fun _ => heard_notifyEach reactions _

end

end CueWatch.Watch
