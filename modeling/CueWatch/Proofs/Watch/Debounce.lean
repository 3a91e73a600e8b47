import CueWatch.Proofs.Watch.LifeCycle
import Mathlib.Algebra.Order.Ring.Unbundled.Rat
import Mathlib.Tactic.Linarith

/-!
Contract: a handler tells of no save that follows too soon after the last one it told of.

Owns:
- `Occasion`, an event with the host that it meets and with what the callback does, and the
  occasions that are fired when a handler is handed one event after another;
- `Occasion.IsRelevant`, that an event is about a file;
- the time that a handler remembers, which is the latest one at which it has fired;
- `Debounced`, which of the occasions are fired, for clocks that may be set back at any time.

Does not own: how long a handler is handed events (`LifeCycle`).
-/

namespace CueWatch.Watch

open Attempt

/-- An event that reaches a handler: the host as it is then, and what the callback does with the
path that it is given. -/
structure Occasion where
  event : FileEvent
  host : Host
  reaction : Text → Attempt Host Unit

namespace Occasion

/-- The event is on no directory, and its path leads to the file. -/
def IsRelevant (target : Text) (occasion : Occasion) : Prop :=
  occasion.event.isDirectory = false ∧
    (occasion.host.settled occasion.event.path).map Pathname.text = .ok target

instance (target : Text) : DecidablePred (IsRelevant target) :=
  fun _ => inferInstanceAs (Decidable (_ ∧ _))

end Occasion

namespace Scene

/-- The scene after the handler at a position has been handed an event. -/
def afterOccasion (position : Nat) (scene : Scene) (occasion : Occasion) : Scene :=
  ((setting.notifyAt (callback (fun _ => occasion.reaction) position) occasion.event position).run
    { scene with host := occasion.host }).2

def afterOccasions (position : Nat) (scene : Scene) (occasions : List Occasion) : Scene :=
  occasions.foldl (afterOccasion position) scene

/-- The paths that the callback is given on an occasion: one for each call. -/
def told (position : Nat) (scene : Scene) (occasion : Occasion) : List Text :=
  ((scene.afterOccasion position occasion).calls.drop scene.calls.length).map Call.file

/-- The calls of the callback on one occasion after another, each with the path that it is given. -/
def fired (position : Nat) (scene : Scene) : List Occasion → List (Occasion × Text)
  | [] => []
  | occasion :: rest =>
      (scene.told position occasion).map (occasion, ·) ++
        (scene.afterOccasion position occasion).fired position rest

/-- The times of calls. -/
def moments (calls : List (Occasion × Text)) : List Moment :=
  calls.map fun call => call.1.event.moment

theorem moments_map (occasions : List Occasion) (file : Text) :
    moments (occasions.map fun occasion => (occasion, file)) =
      occasions.map fun occasion => occasion.event.moment := by
  simp [moments, Function.comp_def]

end Scene

/-! ### What a handler does on its own -/

namespace SaveHandler

theorem quietPeriod_pos : 0 < quietPeriod := by decide +kernel

theorem create_eq_ok_iff {file : Text} {home : Host} {handler : SaveHandler} :
    create file home = .ok handler ↔
      ∃ path, home.settled file = .ok path ∧ handler = ⟨path.text, 0⟩ := by
  unfold create
  cases home.settled file with
  | error failure => simp [Except.map]
  | ok path => simp [Except.map, eq_comm]

/-- Whether the handler fires on an occasion. -/
def fires (handler : SaveHandler) (occasion : Occasion) : Bool :=
  handler.triggers occasion.event occasion.host = .ok true

/-- The handler after an occasion, if the callback returns. -/
def after (handler : SaveHandler) (occasion : Occasion) : SaveHandler :=
  if handler.fires occasion then handler.triggered occasion.event.moment else handler

/-- The occasions on which the handler fires. -/
def saves (handler : SaveHandler) : List Occasion → List Occasion
  | [] => []
  | occasion :: rest =>
      if handler.fires occasion then occasion :: (handler.after occasion).saves rest
      else (handler.after occasion).saves rest

theorem target_after (handler : SaveHandler) (occasion : Occasion) :
    (handler.after occasion).target = handler.target := by
  unfold after
  split <;> rfl

theorem target_foldl_after (handler : SaveHandler) (occasions : List Occasion) :
    (occasions.foldl after handler).target = handler.target := by
  induction occasions generalizing handler with
  | nil => rfl
  | cons occasion occasions inductionHypothesis =>
      rw [List.foldl_cons, inductionHypothesis, target_after]

theorem after_of_fires {handler : SaveHandler} {occasion : Occasion}
    (fires : handler.fires occasion = true) :
    handler.after occasion = handler.triggered occasion.event.moment := if_pos fires

theorem after_of_not_fires {handler : SaveHandler} {occasion : Occasion}
    (quiet : ¬ handler.fires occasion = true) : handler.after occasion = handler := if_neg quiet

/-- A handler fires on relevant events that come late enough after the time it remembers. -/
theorem fires_iff (handler : SaveHandler) (occasion : Occasion) :
    handler.fires occasion = true ↔
      occasion.IsRelevant handler.target ∧
        handler.last + quietPeriod < occasion.event.moment := by
  have due (moment : Moment) :
      handler.isDue moment = true ↔ handler.last + quietPeriod < moment := by
    rw [isDue, decide_eq_true_iff, lt_sub_iff_add_lt']
  unfold fires triggers concerns Occasion.IsRelevant
  rw [decide_eq_true_iff]
  cases occasion.event.isDirectory with
  | true => simp [Except.map]
  | false =>
      cases occasion.host.settled occasion.event.path with
      | error failure => simp [Except.map]
      | ok path => simp [Except.map, due]

theorem saves_cons (handler : SaveHandler) (occasion : Occasion) (rest : List Occasion) :
    handler.saves (occasion :: rest) =
      (if handler.fires occasion then [occasion] else []) ++
        (handler.after occasion).saves rest := by
  rw [saves]
  split <;> rfl

/-- Occasions that are not relevant leave no trace. -/
theorem saves_filter (handler : SaveHandler) (occasions : List Occasion) :
    handler.saves (occasions.filter fun occasion => occasion.IsRelevant handler.target) =
      handler.saves occasions := by
  induction occasions generalizing handler with
  | nil => rfl
  | cons occasion occasions inductionHypothesis =>
      have later := inductionHypothesis (handler.after occasion)
      rw [target_after] at later
      rw [List.filter_cons, saves_cons]
      by_cases relevant : occasion.IsRelevant handler.target
      · rw [if_pos (decide_eq_true relevant), saves_cons, later]
      · have quiet : ¬ handler.fires occasion = true :=
          fun fires => relevant ((handler.fires_iff occasion).mp fires).1
        rw [after_of_not_fires quiet] at later ⊢
        rw [if_neg (by simpa using relevant), if_neg quiet, later]
        rfl

/-- Every time at which a handler fires is later than the one it remembered and than all earlier
ones, by more than the quiet period. -/
theorem saves_spaced (handler : SaveHandler) (occasions : List Occasion) :
    (handler.last :: (handler.saves occasions).map fun occasion => occasion.event.moment).Pairwise
      fun earlier later => earlier + quietPeriod < later := by
  induction occasions generalizing handler with
  | nil => simp [saves]
  | cons occasion occasions inductionHypothesis =>
      have later := inductionHypothesis (handler.after occasion)
      rw [saves_cons]
      by_cases fires : handler.fires occasion = true
      · have late := ((handler.fires_iff occasion).mp fires).2
        rw [after_of_fires fires] at later ⊢
        rw [if_pos fires, List.map_append, List.map_singleton, List.singleton_append,
          List.pairwise_cons]
        refine ⟨fun moment member => ?_, later⟩
        rcases List.mem_cons.mp member with rfl | after
        · exact late
        · have gap : occasion.event.moment + quietPeriod < moment :=
            (List.pairwise_cons.mp later).1 moment after
          linarith [quietPeriod_pos]
      · rw [after_of_not_fires fires] at later ⊢
        rw [if_neg fires, List.nil_append]
        exact later

/-- A handler remembers the last time at which it has fired. -/
theorem last_foldl_after (handler : SaveHandler) (occasions : List Occasion) :
    (occasions.foldl after handler).last =
      ((handler.saves occasions).map fun occasion => occasion.event.moment).getLast?.getD
        handler.last := by
  induction occasions generalizing handler with
  | nil => rfl
  | cons occasion occasions inductionHypothesis =>
      rw [List.foldl_cons, inductionHypothesis, saves_cons]
      by_cases fires : handler.fires occasion = true
      · rw [if_pos fires, after_of_fires fires, List.map_append, List.map_singleton,
          List.singleton_append, List.getLast?_cons]
        rfl
      · rw [if_neg fires, after_of_not_fires fires, List.nil_append]

end SaveHandler

/-- The latest of several times, and 0 if there is none. -/
def latest (moments : List Moment) : Moment := moments.max?.getD 0

theorem max?_of_increasing {moments : List Moment} (increasing : moments.Pairwise (· < ·)) :
    moments.max? = moments.getLast? := by
  rcases List.eq_nil_or_concat moments with rfl | ⟨earlier, last, rfl⟩
  · rfl
  · rw [List.concat_eq_append] at increasing ⊢
    rw [List.getLast?_concat, List.max?_eq_some_iff]
    refine ⟨by simp, fun moment member => ?_⟩
    rcases List.mem_append.mp member with before | same
    · exact le_of_lt ((List.pairwise_append.mp increasing).2.2 moment before last (by simp))
    · exact le_of_eq (List.mem_singleton.mp same)

/-- A handler that has remembered no time remembers the latest one at which it has fired. -/
theorem SaveHandler.last_eq_latest {handler : SaveHandler} (fresh : handler.last = 0)
    (occasions : List Occasion) :
    (occasions.foldl after handler).last =
      latest ((handler.saves occasions).map fun occasion => occasion.event.moment) := by
  have spaced := (List.pairwise_cons.mp (handler.saves_spaced occasions)).2
  have increasing : ((handler.saves occasions).map fun occasion =>
      occasion.event.moment).Pairwise (· < ·) := by
    refine spaced.imp fun {earlier later} gap => ?_
    linarith [SaveHandler.quietPeriod_pos]
  rw [last_foldl_after, latest, max?_of_increasing increasing, fresh]

/-! ### What a handler does in a watcher -/

section

variable {scene : Scene} {position : Nat} {occasion : Occasion} {registration : Registration}

theorem Watcher.live_markTriggered {watcher : Watcher}
    (found : watcher.live[position]? = some registration) (moment : Moment) :
    (watcher.markTriggered position moment).live[position]? =
      some { registration with handler := registration.handler.triggered moment } := by
  unfold live at found ⊢
  split at found
  next running => simp [markTriggered, running, found]
  next => cases found

/-- A callback that returns has been called once. -/
theorem run_callback (scene : Scene) {position : Nat} (reactions : Reactions) {file : Text}
    (returns : (reactions position file).Total) :
    ∃ host, (Scene.callback reactions position file).run scene =
      (.ok (), ⟨host, scene.watcher, scene.calls ++ [⟨position, file, scene.host⟩]⟩) := by
  obtain ⟨⟨⟩, host, returned⟩ := returns scene.host
  refine ⟨host, ?_⟩
  rw [Scene.callback, run_bind_of_ok (run_change _ scene), Setting.onHost, run_within]
  change (((reactions position file).run scene.host).1,
    Scene.setting.setHost ((reactions position file).run scene.host).2 _) = _
  rw [returned]
  rfl

theorem run_notifyAt_of_triggers {callback : Text → Attempt Scene Unit} {event : FileEvent}
    (found : scene.watcher.live[position]? = some registration)
    (triggers : registration.handler.triggers event scene.host = .ok true) :
    (Scene.setting.notifyAt callback event position).run scene =
      (do
        Scene.setting.onHost
          (Host.log .debug ("save detected: " ++ registration.handler.target))
        callback registration.handler.target
        Scene.setting.update (Watcher.markTriggered position event.moment)).run scene := by
  have foundThere : (Scene.setting.watcher scene).live[position]? = some registration := found
  have decided : (require fun scene =>
      registration.handler.triggers event (Scene.setting.host scene)).run scene =
        (.ok true, scene) :=
    congrArg (·, scene) triggers
  rw [Setting.notifyAt, run_bind_of_ok (run_look _ scene)]
  rw [foundThere]
  exact run_bind_of_ok decided

/-- Unless an event triggers the handler, nothing is done. -/
theorem run_notifyAt_of_quiet {callback : Text → Attempt Scene Unit} {event : FileEvent}
    (found : scene.watcher.live[position]? = some registration)
    (quiet : registration.handler.triggers event scene.host ≠ .ok true) :
    ((Scene.setting.notifyAt callback event position).run scene).2 = scene := by
  have foundThere : (Scene.setting.watcher scene).live[position]? = some registration := found
  rw [Setting.notifyAt, run_bind_of_ok (run_look _ scene)]
  rw [foundThere, run_bind, run_require]
  cases triggers : registration.handler.triggers event (Scene.setting.host scene) with
  | error failure => rfl
  | ok counts =>
      cases counts with
      | false => rfl
      | true => exact absurd triggers quiet

theorem afterOccasion_of_fires (found : scene.watcher.live[position]? = some registration)
    (fires : registration.handler.fires occasion = true)
    (returns : (occasion.reaction registration.handler.target).Total) :
    (scene.afterOccasion position occasion).watcher =
        scene.watcher.markTriggered position occasion.event.moment ∧
      ∃ host, (scene.afterOccasion position occasion).calls =
        scene.calls ++ [⟨position, registration.handler.target, host⟩] := by
  let met : Scene := { scene with host := occasion.host }
  have foundThere : met.watcher.live[position]? = some registration := found
  have triggers : registration.handler.triggers occasion.event met.host = .ok true :=
    of_decide_eq_true fires
  let note := Host.log .debug ("save detected: " ++ registration.handler.target)
  let noting : Scene := { met with host := (note.run met.host).2 }
  have noted : (Scene.setting.onHost note).run met = (.ok (), noting) := rfl
  obtain ⟨host, called⟩ := run_callback noting (fun _ => occasion.reaction) returns
  rw [Scene.afterOccasion, run_notifyAt_of_triggers foundThere triggers,
    run_bind_of_ok noted, run_bind_of_ok called]
  exact ⟨rfl, _, rfl⟩

theorem afterOccasion_of_not_fires (found : scene.watcher.live[position]? = some registration)
    (quiet : ¬ registration.handler.fires occasion = true) :
    scene.afterOccasion position occasion = { scene with host := occasion.host } := by
  let met : Scene := { scene with host := occasion.host }
  have foundThere : met.watcher.live[position]? = some registration := found
  exact run_notifyAt_of_quiet foundThere fun triggers => quiet (decide_eq_true triggers)

end

/-- A handler is registered at a position of a running watcher. -/
def Scene.Serves (scene : Scene) (position : Nat) (handler : SaveHandler) : Prop :=
  ∃ directory, scene.watcher.live[position]? = some ⟨handler, directory⟩

namespace Scene.Serves

variable {scene : Scene} {position : Nat} {handler : SaveHandler}

/-- In a watcher, a handler does what it does on its own, and each time it fires its callback is
called once. -/
theorem afterOccasion (serves : scene.Serves position handler) {occasion : Occasion}
    (returns : (occasion.reaction handler.target).Total) :
    (scene.afterOccasion position occasion).Serves position (handler.after occasion) ∧
      scene.told position occasion = if handler.fires occasion then [handler.target] else [] := by
  obtain ⟨directory, found⟩ := serves
  by_cases fires : handler.fires occasion = true
  · obtain ⟨watcher, host, calls⟩ := afterOccasion_of_fires found fires returns
    refine ⟨⟨directory, ?_⟩, ?_⟩
    · rw [watcher, Watcher.live_markTriggered found, SaveHandler.after_of_fires fires]
    · rw [Scene.told, calls, List.drop_left, if_pos fires]
      rfl
  · have same := afterOccasion_of_not_fires found fires
    refine ⟨⟨directory, ?_⟩, ?_⟩
    · rw [same, SaveHandler.after_of_not_fires fires, found]
    · rw [Scene.told, same, List.drop_length, if_neg fires]
      rfl

/-- The callback is not called for a relevant event exactly if it comes too soon after the time that
the handler remembers. -/
theorem told_eq_nil_iff (serves : scene.Serves position handler) {occasion : Occasion}
    (relevant : occasion.IsRelevant handler.target)
    (returns : (occasion.reaction handler.target).Total) :
    scene.told position occasion = [] ↔
      occasion.event.moment ≤ handler.last + SaveHandler.quietPeriod := by
  have quiet : ¬ handler.fires occasion = true ↔
      occasion.event.moment ≤ handler.last + SaveHandler.quietPeriod := by
    rw [handler.fires_iff, not_and, not_lt]
    exact ⟨fun late => late relevant, fun late _ => late⟩
  rw [(serves.afterOccasion returns).2, ← quiet]
  split
  next fires => exact iff_of_false (List.cons_ne_nil _ _) (not_not_intro fires)
  next silent => exact iff_of_true rfl silent

theorem afterOccasions (serves : scene.Serves position handler) {occasions : List Occasion}
    (returns : ∀ occasion ∈ occasions, (occasion.reaction handler.target).Total) :
    (scene.afterOccasions position occasions).Serves position
      (occasions.foldl SaveHandler.after handler) := by
  induction occasions generalizing scene handler with
  | nil => exact serves
  | cons occasion occasions inductionHypothesis =>
      rw [List.forall_mem_cons] at returns
      refine inductionHypothesis (serves.afterOccasion returns.1).1 ?_
      rw [SaveHandler.target_after]
      exact returns.2

theorem fired (serves : scene.Serves position handler) {occasions : List Occasion}
    (returns : ∀ occasion ∈ occasions, (occasion.reaction handler.target).Total) :
    scene.fired position occasions =
      (handler.saves occasions).map fun occasion => (occasion, handler.target) := by
  induction occasions generalizing scene handler with
  | nil => rfl
  | cons occasion occasions inductionHypothesis =>
      rw [List.forall_mem_cons] at returns
      obtain ⟨servesAfter, told⟩ := serves.afterOccasion returns.1
      have later := inductionHypothesis servesAfter (by
        rw [SaveHandler.target_after]
        exact returns.2)
      rw [SaveHandler.target_after] at later
      rw [Scene.fired, told, later, SaveHandler.saves_cons, List.map_append]
      split <;> rfl

end Scene.Serves

/-! ### Debouncing -/

/-- Which of the events that a handler is handed one after another it tells of. -/
structure Debounced (target : Text) (position : Nat) (scene : Scene) (occasions : List Occasion) :
    Prop where
  /-- Events that are not about the file leave no trace: the callback is called as for the others
  alone. -/
  relevantAlone :
    scene.fired position (occasions.filter fun occasion => occasion.IsRelevant target) =
      scene.fired position occasions
  /-- The first call comes more than the quiet period after 0, and every other one more than the
  quiet period after all calls before it. -/
  spaced : (0 :: Scene.moments (scene.fired position occasions)).Pairwise
    fun earlier later => earlier + SaveHandler.quietPeriod < later
  /-- An event about the file is dropped exactly if it does not come more than the quiet period
  after the latest call before it. -/
  dropped : ∀ earlier occasion later, occasions = earlier ++ occasion :: later →
    occasion.IsRelevant target →
    ((scene.afterOccasions position earlier).told position occasion = [] ↔
      occasion.event.moment ≤
        latest (Scene.moments (scene.fired position earlier)) + SaveHandler.quietPeriod)
  /-- The callback is always given the path of the file without links. -/
  given : ∀ call ∈ scene.fired position occasions, call.2 = target

/-- A new handler in a running watcher is debounced, whatever the clock shows, whatever the events
are about and however the host changes between them, as long as the callback returns. -/
theorem saves_are_debounced {file : Text} {home : Host} {handler : SaveHandler}
    (created : SaveHandler.create file home = .ok handler) {scene : Scene} {position : Nat}
    {directory : Text} (registered : scene.watcher.live[position]? = some ⟨handler, directory⟩)
    {occasions : List Occasion}
    (returns : ∀ occasion ∈ occasions, (occasion.reaction handler.target).Total) :
    ∃ path, home.settled file = .ok path ∧
      Debounced path.text position scene occasions := by
  obtain ⟨path, settles, rfl⟩ := SaveHandler.create_eq_ok_iff.mp created
  have serves : scene.Serves position ⟨path.text, 0⟩ := ⟨directory, registered⟩
  refine ⟨path, settles, ?relevantAlone, ?spaced, ?dropped, ?given⟩
  case relevantAlone =>
    have returnsRelevant : ∀ occasion ∈ occasions.filter fun occasion =>
        occasion.IsRelevant path.text, (occasion.reaction path.text).Total :=
      fun occasion member => returns occasion (List.mem_filter.mp member).1
    rw [serves.fired returns, serves.fired returnsRelevant, SaveHandler.saves_filter]
  case spaced =>
    rw [serves.fired returns, Scene.moments_map]
    exact SaveHandler.saves_spaced ⟨path.text, 0⟩ occasions
  case dropped =>
    rintro earlier occasion later rfl relevant
    have returnsEarlier : ∀ other ∈ earlier, (other.reaction path.text).Total :=
      fun other member => returns other (List.mem_append_left _ member)
    have returnsNow : (occasion.reaction path.text).Total := returns occasion (by simp)
    have sameTarget := SaveHandler.target_foldl_after ⟨path.text, 0⟩ earlier
    -- The time that the handler has come to remember is the latest one at which it has fired.
    rw [serves.fired returnsEarlier, Scene.moments_map, ← SaveHandler.last_eq_latest rfl]
    apply (serves.afterOccasions returnsEarlier).told_eq_nil_iff
    · rw [sameTarget]
      exact relevant
    · rw [sameTarget]
      exact returnsNow
  case given =>
    intro call member
    rw [serves.fired returns] at member
    obtain ⟨occasion, -, rfl⟩ := List.mem_map.mp member
    rfl

/-- A handler for the file of the quiet host, alone in a running watcher. -/
def savingHandler : SaveHandler := ⟨"/w/a.cue", 0⟩

def watchedScene : Scene := ⟨quietHost, ⟨.running, [⟨savingHandler, "/w"⟩]⟩, []⟩

/-- Saves by a clock that is set back, among them a move to the file, a change of its directory and
one of another file. -/
def jumpyEvents : List FileEvent :=
  [ ⟨.modified, "/w/a.cue", [], false, 1 / 2⟩,
    ⟨.modified, "/w/a.cue", [], false, 1⟩,
    ⟨.modified, "/w/a.cue", [], false, 3 / 2⟩,
    ⟨.modified, "/w/a.cue", [], true, 8⟩,
    ⟨.modified, "/w/a.cue", [], false, -3⟩,
    ⟨.moved, "/w/b", "/w/../w/a.cue", false, 25 / 16⟩,
    ⟨.modified, "/w/b", "/w/a.cue", false, 100⟩,
    ⟨.modified, "/w/a.cue", [], false, 2⟩ ]

def jumpyOccasions : List Occasion :=
  jumpyEvents.map fun event => ⟨event, quietHost, fun _ => pure ()⟩

theorem jumpy_saves_debounced :
    SaveHandler.create "/w/a.cue" quietHost = .ok savingHandler ∧
    watchedScene.watcher.live[0]? = some ⟨savingHandler, "/w"⟩ ∧
    (∀ occasion ∈ jumpyOccasions, (occasion.reaction savingHandler.target).Total) ∧
    Scene.moments (watchedScene.fired 0 jumpyOccasions) = [1, 25 / 16] ∧
    ∃ path, quietHost.settled "/w/a.cue" = .ok path ∧
      Debounced path.text 0 watchedScene jumpyOccasions := by
  have created : SaveHandler.create "/w/a.cue" quietHost = .ok savingHandler := by decide +kernel
  have registered : watchedScene.watcher.live[0]? = some ⟨savingHandler, "/w"⟩ := rfl
  have returns : ∀ occasion ∈ jumpyOccasions,
      (occasion.reaction savingHandler.target).Total := by
    intro occasion member
    obtain ⟨event, -, rfl⟩ := List.mem_map.mp member
    exact .pure ()
  exact ⟨created, registered, returns, by decide +kernel,
    saves_are_debounced created registered returns⟩

end CueWatch.Watch
