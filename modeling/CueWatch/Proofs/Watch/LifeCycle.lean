import CueWatch.Proofs.Host.Settled
import CueWatch.Proofs.Watch.Delivery
import Mathlib.Data.List.Basic

/-!
Contract: the life of a watcher, from its first start to its stop.

Owns:
- `Act`, what a watcher can be asked for, and `Step`, all that can come of it;
- `Course`, the runs of one watcher: starts, stops and events in any order, while other programs and
  the callbacks change the host as they like;
- that the phase of a watcher and the files it watches can be read off its run;
- that every turn of every run is `Orderly`: callbacks are called only between the start that
  succeeded and the stop after it, each only for its own file and for events that lead there.

Does not own: which of the events that lead there come too soon after a save (`SaveHandler`), and
which paths lead where (`Proofs.Host.Settled`).
-/

namespace CueWatch.Watch

open Attempt

/-- What a watcher is asked for. An event comes with what the callbacks do when they are told. -/
inductive Act where
  | start (file : Text)
  | stop
  | deliver (event : FileEvent) (reactions : Reactions)

def Act.perform : Act → Attempt Scene Unit
  | .start file => Scene.setting.start file
  | .stop => Scene.setting.stop
  | .deliver event reactions => Scene.setting.deliverEach (Scene.callback reactions) event

/-- The file, without links, that an act asks to watch. A start that comes too late asks for it all
the same. -/
def Act.target? (act : Act) (host : Host) : Option Text :=
  match act with
  | .start file =>
      match Watcher.registration file host with
      | .ok registration => some registration.handler.target
      | .error _ => none
  | _ => none

/-! ### One turn -/

/-- An act and the scene it meets. -/
structure Turn where
  before : Scene
  act : Act

namespace Turn

def result (turn : Turn) : Except Failure Unit := (turn.act.perform.run turn.before).1

def after (turn : Turn) : Scene := (turn.act.perform.run turn.before).2

/-- The calls of callbacks that the turn made. -/
def calls (turn : Turn) : List Call := turn.after.calls.drop turn.before.calls.length

def target? (turn : Turn) : Option Text := turn.act.target? turn.before.host

/-- The turn is a start that succeeds. -/
def Starts (turn : Turn) : Prop := ∃ file, turn.act = .start file ∧ turn.result = .ok ()

def Stops (turn : Turn) : Prop := turn.act = .stop

end Turn

/-- All that can come of an act: its result and the scene it leads to. -/
inductive Step (scene : Scene) : Act → Except Failure Unit → Scene → Prop
  | refused {file : Text} {failure : Failure}
      (unregistered : Watcher.registration file scene.host = .error failure) :
      Step scene (.start file) (.error failure) scene
  | repeated {file : Text} {registration : Registration}
      (registered : Watcher.registration file scene.host = .ok registration)
      (started : scene.watcher.phase ≠ .fresh) :
      Step scene (.start file) (.error .startedBefore)
        { scene with watcher := scene.watcher.register registration }
  | launched {file : Text} {registration : Registration}
      (registered : Watcher.registration file scene.host = .ok registration)
      (fresh : scene.watcher.phase = .fresh) (host : Host) :
      Step scene (.start file) (.ok ())
        ⟨host, { scene.watcher.register registration with phase := .running }, scene.calls⟩
  | stopped : Step scene .stop (.ok ()) { scene with watcher := scene.watcher.stop }
  | told {event : FileEvent} {reactions : Reactions} {result : Except Failure Unit} {later : Scene}
      (heard : Heard event later scene) : Step scene (.deliver event reactions) result later

theorem Watcher.launch_of_fresh {watcher : Watcher} (fresh : watcher.phase = .fresh) :
    watcher.launch = .ok { watcher with phase := .running } := by
  rw [launch, fresh]

theorem Watcher.launch_of_started {watcher : Watcher} (started : watcher.phase ≠ .fresh) :
    watcher.launch = .error .startedBefore := by
  unfold launch
  split
  next fresh => exact absurd fresh started
  next => rfl

theorem step_start (file : Text) (scene : Scene) :
    Step scene (.start file) ((Scene.setting.start file).run scene).1
      ((Scene.setting.start file).run scene).2 := by
  rw [Setting.start, run_bind, run_require]
  cases registered : Watcher.registration file (Scene.setting.host scene) with
  | error failure => exact .refused registered
  | ok registration =>
      simp only [run_bind, Setting.update, run_change, run_require, Scene.setting]
      by_cases fresh : scene.watcher.phase = .fresh
      · rw [(scene.watcher.register registration).launch_of_fresh fresh]
        exact .launched registered fresh _
      · rw [(scene.watcher.register registration).launch_of_started fresh]
        exact .repeated registered fresh

theorem Turn.step (turn : Turn) : Step turn.before turn.act turn.result turn.after := by
  obtain ⟨scene, act⟩ := turn
  cases act with
  | start file => exact step_start file scene
  | stop => exact .stopped
  | deliver event reactions => exact .told (heard_deliverEach reactions scene)

/-! ### What a step does to the phase, the files and the calls -/

theorem Watcher.phase_stop (watcher : Watcher) :
    watcher.stop.phase = if watcher.phase = .running then .ended else watcher.phase := by
  unfold stop
  split <;> rfl

theorem Watcher.stop_of_ne_running {watcher : Watcher} (idle : watcher.phase ≠ .running) :
    watcher.stop = watcher := by
  rw [stop, if_neg idle]

theorem Act.target?_of_registration {file : Text} {host : Host} {registration : Registration}
    (registered : Watcher.registration file host = .ok registration) :
    (Act.start file).target? host = some registration.handler.target := by
  rw [target?, registered]

theorem Act.target?_of_refused {file : Text} {host : Host} {failure : Failure}
    (unregistered : Watcher.registration file host = .error failure) :
    (Act.start file).target? host = none := by
  rw [target?, unregistered]

namespace Step

variable {scene later : Scene} {act : Act} {result : Except Failure Unit}

/-- A watcher is fresh until a start succeeds. -/
theorem fresh_iff (step : Step scene act result later) :
    later.watcher.phase = .fresh ↔
      scene.watcher.phase = .fresh ∧ ¬ ∃ file, act = .start file ∧ result = .ok () := by
  cases step with
  | refused => simp
  | repeated _ started => simp [Watcher.register, started]
  | launched => simp
  | stopped => cases phase : scene.watcher.phase <;> simp [Watcher.phase_stop, phase]
  | told heard => simp [heard.phase]

/-- A watcher ends when it is stopped while it runs. -/
theorem ended_iff (step : Step scene act result later) :
    later.watcher.phase = .ended ↔
      scene.watcher.phase = .ended ∨ (scene.watcher.phase = .running ∧ act = .stop) := by
  cases step with
  | refused => simp
  | repeated => simp [Watcher.register]
  | launched _ fresh => simp [fresh]
  | stopped => cases phase : scene.watcher.phase <;> simp [Watcher.phase_stop, phase]
  | told heard => simp [heard.phase]

/-- Until a watcher has ended, it keeps the files that it was asked to watch. -/
theorem targets_eq (step : Step scene act result later) (goesOn : later.watcher.phase ≠ .ended) :
    later.watcher.targets = scene.watcher.targets ++ (act.target? scene.host).toList := by
  cases step with
  | refused unregistered => simp [Act.target?_of_refused unregistered]
  | repeated registered => simp [Act.target?_of_registration registered]
  | launched registered =>
      rw [Act.target?_of_registration registered]
      exact Watcher.targets_register scene.watcher _
  | stopped =>
      have idle : scene.watcher.phase ≠ .running := by
        intro running
        exact goesOn (by rw [Watcher.phase_stop, if_pos running])
      rw [Watcher.stop_of_ne_running idle]
      exact (List.append_nil _).symm
  | told heard => rw [heard.targets]; exact (List.append_nil _).symm

/-- Calls are made only when an event is handed over, and they follow from it. -/
theorem exists_made (step : Step scene act result later) :
    ∃ made, later.calls = scene.calls ++ made ∧ ∀ call ∈ made, ∃ event reactions,
      act = .deliver event reactions ∧ call.IsFor event scene.watcher := by
  have quiet : ∀ other : Scene, other.calls = scene.calls → ∃ made,
      other.calls = scene.calls ++ made ∧ ∀ call ∈ made, ∃ event reactions,
        act = .deliver event reactions ∧ call.IsFor event scene.watcher :=
    fun _ same => ⟨[], by rw [same, List.append_nil], nofun⟩
  cases step with
  | refused => exact quiet _ rfl
  | repeated => exact quiet _ rfl
  | launched => exact quiet _ rfl
  | stopped => exact quiet _ rfl
  | @told event reactions _ _ heard =>
      obtain ⟨made, calls, follow⟩ := heard.calls
      exact ⟨made, calls, fun call member => ⟨event, reactions, rfl, follow call member⟩⟩

theorem of_registered {file : Text} {registration : Registration}
    (step : Step scene (.start file) result later)
    (registered : Watcher.registration file scene.host = .ok registration) :
    (scene.watcher.phase = .fresh → result = .ok ()) ∧
      (scene.watcher.phase ≠ .fresh → result = .error .startedBefore) := by
  cases step with
  | refused unregistered =>
      rw [registered] at unregistered
      cases unregistered
  | repeated _ started => exact ⟨fun fresh => absurd fresh started, fun _ => rfl⟩
  | launched _ fresh => exact ⟨fun _ => rfl, fun started => absurd fresh started⟩

theorem of_refused {file : Text} {failure : Failure} (step : Step scene (.start file) result later)
    (unregistered : Watcher.registration file scene.host = .error failure) :
    result = .error failure ∧ later = scene := by
  cases step with
  | refused other =>
      rw [unregistered] at other
      obtain rfl := Except.error.inj other
      exact ⟨rfl, rfl⟩
  | repeated registered =>
      rw [unregistered] at registered
      cases registered
  | launched registered =>
      rw [unregistered] at registered
      cases registered

theorem of_stop (step : Step scene .stop result later) :
    result = .ok () ∧ later = { scene with watcher := scene.watcher.stop } := by
  cases step
  exact ⟨rfl, rfl⟩

end Step

theorem Turn.exists_of_called {turn : Turn} {call : Call} (called : call ∈ turn.calls) :
    ∃ event reactions, turn.act = .deliver event reactions ∧
      call.IsFor event turn.before.watcher := by
  obtain ⟨made, calls, follow⟩ := turn.step.exists_made
  rw [Turn.calls, calls, List.drop_left] at called
  exact follow call called

/-! ### Runs -/

/-- The runs of one watcher. Between two turns the host may change at will. -/
inductive Course : List Turn → Scene → Prop
  | begun (host : Host) : Course [] ⟨host, .initial, []⟩
  | acted {turns : List Turn} {scene : Scene} (course : Course turns scene) (act : Act) :
      Course (turns ++ [⟨scene, act⟩]) (Turn.mk scene act).after
  | disturbed {turns : List Turn} {scene : Scene} (course : Course turns scene) (host : Host) :
      Course turns { scene with host := host }

/-- A start has succeeded. -/
def HasStarted (turns : List Turn) : Prop := ∃ turn ∈ turns, turn.Starts

/-- After a start that succeeded, the watcher has been stopped. -/
def HasEnded (turns : List Turn) : Prop :=
  ∃ earlier later, turns = earlier ++ later ∧ HasStarted earlier ∧ ∃ turn ∈ later, turn.Stops

theorem hasStarted_concat {turns : List Turn} {turn : Turn} :
    HasStarted (turns ++ [turn]) ↔ HasStarted turns ∨ turn.Starts := by
  simp only [HasStarted, List.mem_append, List.mem_singleton, or_and_right, exists_or,
    exists_eq_left]

theorem hasEnded_concat {turns : List Turn} {turn : Turn} :
    HasEnded (turns ++ [turn]) ↔ HasEnded turns ∨ (HasStarted turns ∧ turn.Stops) := by
  constructor
  · rintro ⟨earlier, later, split, started, stopping, member, stops⟩
    rcases List.eq_nil_or_concat later with rfl | ⟨initial, last, rfl⟩
    · cases member
    · rw [List.concat_eq_append, ← List.append_assoc] at split
      obtain ⟨rfl, same⟩ := List.append_inj' split rfl
      obtain rfl := List.singleton_inj.mp same
      rw [List.concat_eq_append, List.mem_append, List.mem_singleton] at member
      rcases member with early | rfl
      · exact .inl ⟨earlier, initial, rfl, started, stopping, early, stops⟩
      · obtain ⟨starting, within, starts⟩ := started
        exact .inr ⟨⟨starting, List.mem_append_left _ within, starts⟩, stops⟩
  · rintro (⟨earlier, later, rfl, started, stopping, member, stops⟩ | ⟨started, stops⟩)
    · exact ⟨earlier, later ++ [turn], List.append_assoc _ _ _, started, stopping,
        List.mem_append_left _ member, stops⟩
    · exact ⟨turns, [turn], rfl, started, turn, List.mem_singleton_self turn, stops⟩

theorem running_iff {phase : Phase} {turns : List Turn} (fresh : phase = .fresh ↔ ¬ HasStarted turns)
    (ended : phase = .ended ↔ HasEnded turns) :
    phase = .running ↔ HasStarted turns ∧ ¬ HasEnded turns := by
  cases phase with
  | fresh => simp_all
  | running => simp_all
  | ended => simp_all

/-- The phase of a watcher can be read off its run. -/
theorem phase_of_course {turns : List Turn} {scene : Scene} (course : Course turns scene) :
    (scene.watcher.phase = .fresh ↔ ¬ HasStarted turns) ∧
      (scene.watcher.phase = .ended ↔ HasEnded turns) := by
  induction course with
  | begun host => simp [Watcher.initial, HasStarted, HasEnded]
  | @acted turns scene course act inductionHypothesis =>
      obtain ⟨fresh, ended⟩ := inductionHypothesis
      have running := running_iff fresh ended
      have step := (Turn.mk scene act).step
      rw [hasStarted_concat, hasEnded_concat, step.fresh_iff, step.ended_iff, fresh, ended, running,
        not_or]
      refine ⟨Iff.rfl, ?_⟩
      by_cases hasEnded : HasEnded turns
      · simp [hasEnded]
      · simp [hasEnded, Turn.Stops]
  | disturbed course host inductionHypothesis => exact inductionHypothesis

/-- Until a watcher has ended, it watches what it was asked to watch in its run. -/
theorem targets_of_course {turns : List Turn} {scene : Scene} (course : Course turns scene)
    (goesOn : scene.watcher.phase ≠ .ended) :
    scene.watcher.targets = turns.filterMap Turn.target? := by
  induction course with
  | begun host => rfl
  | @acted turns scene course act inductionHypothesis =>
      have step := (Turn.mk scene act).step
      have went : scene.watcher.phase ≠ .ended :=
        fun ended => goesOn (step.ended_iff.mpr (.inl ended))
      rw [step.targets_eq goesOn, inductionHypothesis went, List.filterMap_append]
      rfl
  | disturbed course host inductionHypothesis => exact inductionHypothesis goesOn

/-- What stands before a turn of a run is a run that leads to it. -/
theorem Course.before {turns : List Turn} {scene : Scene} (course : Course turns scene)
    {earlier later : List Turn} {turn : Turn} (split : turns = earlier ++ turn :: later) :
    Course earlier turn.before := by
  induction course generalizing later with
  | begun host => simp at split
  | @acted turns scene course act inductionHypothesis =>
      rcases List.eq_nil_or_concat later with rfl | ⟨initial, last, rfl⟩
      · obtain ⟨rfl, same⟩ := List.append_inj' split rfl
        obtain rfl := List.singleton_inj.mp same
        exact course
      · rw [List.concat_eq_append, ← List.cons_append, ← List.append_assoc] at split
        exact inductionHypothesis (List.append_inj' split rfl).1
  | disturbed course host inductionHypothesis => exact inductionHypothesis split

/-! ### Order in every turn -/

theorem Watcher.registration_eq_ok_iff {file : Text} {host : Host} {registration : Registration} :
    Watcher.registration file host = .ok registration ↔
      ∃ path resolved, host.settled file = .ok path ∧ host.isPresent path.text = .ok true ∧
        host.settled path.text = .ok resolved ∧
        registration = ⟨⟨resolved.text, 0⟩, path.parent.text⟩ := by
  unfold Watcher.registration
  cases settled : host.settled file with
  | error failure => simp
  | ok path =>
      cases present : host.isPresent path.text with
      | error failure => simp [present]
      | ok isPresent =>
          cases isPresent with
          | false => simp [present]
          | true =>
              cases resolved : host.settled path.text with
              | error failure => simp [present, resolved, SaveHandler.create, Except.map]
              | ok target =>
                  simp [present, resolved, SaveHandler.create, Except.map, eq_comm]

/-- A start registers a file, and it succeeds exactly if none has succeeded before. -/
structure Registers (earlier : List Turn) (turn : Turn) (file : Text) : Prop where
  target : turn.target? = some file
  first : ¬ HasStarted earlier → turn.result = .ok ()
  again : HasStarted earlier → turn.result = .error .startedBefore

/-- What holds of a turn, told by the turns before it. -/
structure Orderly (earlier : List Turn) (turn : Turn) : Prop where
  /-- Callbacks are called only after a start that succeeded and before the stop after it. -/
  between : ∀ call ∈ turn.calls, HasStarted earlier ∧ ¬ HasEnded earlier
  /-- A callback is called only with its own file, for an event on no directory whose path leads
  there. -/
  own : ∀ call ∈ turn.calls, ∃ event reactions path,
    turn.act = .deliver event reactions ∧ event.isDirectory = false ∧
    (earlier.filterMap Turn.target?)[call.position]? = some call.file ∧
    call.host.settled event.path = .ok path ∧ path.text = call.file
  /-- A start on a file that exists registers what the path that it is settled to leads to. -/
  existing : ∀ file path target, turn.act = .start file →
    turn.before.host.settled file = .ok path → turn.before.host.isPresent path.text = .ok true →
    turn.before.host.settled path.text = .ok target → Registers earlier turn target.text
  /-- A start on a file that exists, on whose way there is no circle of links, registers the path
  that it is settled to. -/
  loopFree : ∀ file path, turn.act = .start file → turn.before.host.IsLoopFree file →
    turn.before.host.IsWithinReach file → turn.before.host.settled file = .ok path →
    turn.before.host.isPresent path.text = .ok true → Registers earlier turn path.text
  /-- A start on a file that is missing fails and changes nothing. -/
  missing : ∀ file path, turn.act = .start file → turn.before.host.settled file = .ok path →
    turn.before.host.isPresent path.text = .ok false →
    turn.result = .error (.unwatchable file) ∧ turn.after = turn.before
  /-- A stop succeeds, and it changes nothing before a start or after another stop. -/
  stops : turn.Stops → turn.result = .ok () ∧
    (¬ HasStarted earlier ∨ HasEnded earlier → turn.after = turn.before)

/-- In every run of a watcher, however starts, stops and events are mixed, every turn is orderly. -/
theorem every_turn_orderly {turns : List Turn} {scene : Scene} (course : Course turns scene)
    {earlier later : List Turn} {turn : Turn} (split : turns = earlier ++ turn :: later) :
    Orderly earlier turn := by
  have before := course.before split
  obtain ⟨fresh, ended⟩ := phase_of_course before
  have running := running_iff fresh ended
  have step := turn.step
  have existing : ∀ file path target, turn.act = .start file →
      turn.before.host.settled file = .ok path → turn.before.host.isPresent path.text = .ok true →
      turn.before.host.settled path.text = .ok target → Registers earlier turn target.text := by
    intro file path target act settles present leads
    have registered : Watcher.registration file turn.before.host =
        .ok ⟨⟨target.text, 0⟩, path.parent.text⟩ :=
      Watcher.registration_eq_ok_iff.mpr ⟨path, target, settles, present, leads, rfl⟩
    rw [act] at step
    obtain ⟨first, again⟩ := step.of_registered registered
    refine ⟨?_, fun never => first (fresh.mpr never), fun started => again fun isFresh =>
      fresh.mp isFresh started⟩
    rw [Turn.target?, act, Act.target?_of_registration registered]
  refine ⟨?_, ?_, existing, ?_, ?_, ?_⟩
  · intro call called
    obtain ⟨event, reactions, -, isFor⟩ := Turn.exists_of_called called
    exact running.mp isFor.running
  · intro call called
    obtain ⟨event, reactions, act, isFor⟩ := Turn.exists_of_called called
    obtain ⟨path, settles, leads⟩ := isFor.settles
    have goesOn : turn.before.watcher.phase ≠ .ended := by
      rw [isFor.running]
      exact nofun
    have targets := targets_of_course before goesOn
    exact ⟨event, reactions, path, act, isFor.noDirectory, targets ▸ isFor.own, settles, leads⟩
  · intro file path act loopFree inReach settles present
    exact existing file path path act settles present
      (Host.settled_settled inReach loopFree settles)
  · intro file path act settles absent
    have unregistered : Watcher.registration file turn.before.host = .error (.unwatchable file) := by
      simp [Watcher.registration, settles, absent]
    rw [act] at step
    exact step.of_refused unregistered
  · intro stops
    have isStop : turn.act = .stop := stops
    rw [isStop] at step
    obtain ⟨result, after⟩ := step.of_stop
    refine ⟨result, fun notRunning => after.trans ?_⟩
    have idle : turn.before.watcher.phase ≠ .running := by
      intro runs
      obtain ⟨started, notEnded⟩ := running.mp runs
      exact notRunning.elim (fun never => never started) notEnded
    rw [Watcher.stop_of_ne_running idle]

/-- A host with one file. -/
def quietHost : Host where
  tree := ⟨[(["w"], .directory), (["w", "a.cue"], .file (.text "x: y"))]⟩
  workingDirectory := FileTree.Spot.root
  environment := []
  accountHome := none
  programs := []
  temporary := "/tmp"
  outcomes := []
  spawned := []
  drawn := 0
  journal := []

/-- A save of the file. -/
def saveAt (moment : Moment) : Act :=
  .deliver ⟨.modified, "/w/a.cue", [], false, moment⟩ fun _ _ => pure ()

def opening : Turn := ⟨⟨quietHost, .initial, []⟩, .start "/w/a.cue"⟩

def firstSave : Turn := ⟨opening.after, saveAt 16⟩

def closing : Turn := ⟨firstSave.after, .stop⟩

def reopening : Turn := ⟨closing.after, .start "/w/a.cue"⟩

def lateSave : Turn := ⟨reopening.after, saveAt 32⟩

theorem saves_around_a_stop :
    let turns := [opening, firstSave, closing, reopening, lateSave]
    Course turns lateSave.after ∧
    turns = [opening] ++ firstSave :: [closing, reopening, lateSave] ∧
    firstSave.calls.map Call.file = [("/w/a.cue" : Text)] ∧ Orderly [opening] firstSave ∧
    turns = [opening, firstSave, closing, reopening] ++ lateSave :: [] ∧
    reopening.result = .error .startedBefore ∧ lateSave.calls.map Call.file = [] ∧
    Orderly [opening, firstSave, closing, reopening] lateSave := by
  intro turns
  have course : Course turns lateSave.after :=
    .acted (.acted (.acted (.acted (.acted (.begun quietHost) _) _) _) _) _
  exact ⟨course, rfl, by decide +kernel, every_turn_orderly course rfl, rfl, by decide +kernel,
    by decide +kernel, every_turn_orderly course rfl⟩

end CueWatch.Watch
