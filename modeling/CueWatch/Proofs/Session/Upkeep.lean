import CueWatch.Proofs.Scratch
import CueWatch.Proofs.Session.Launch

/-!
Contract: every request tends the host.

Owns:
- `TendedSession`, and that requests keep file trees sound and give no temporary name back.

Does not own: what the names are drawn for (`Proofs.Session.Results`).
-/

namespace CueWatch

open Attempt

namespace Session

/-- The host of a later session is tended. -/
def TendedSession (later session : Session) : Prop := Host.Tended later.host session.host

theorem chains_tendedSession : Chains TendedSession where
  refl := fun session => Host.chains_tended.refl session.host
  trans := Host.chains_tended.trans

theorem tended_onHost {α : Type} {step : Attempt Host α} (moves : Moves Host.Tended step) :
    Moves TendedSession (onHost step) := fun session => moves session.host

theorem tended_of_keeps_host {α : Type} {step : Attempt Session α}
    (kept : Keeps Session.host step) : Moves TendedSession step := by
  intro session
  rw [TendedSession, kept session]
  exact Host.chains_tended.refl session.host

theorem tended_of_surroundings {session later : Session}
    (same : later.surroundings = session.surroundings) : TendedSession later session :=
  (Host.matures_of_unlogged same).toTended

theorem tended_changeSetting (key : Text) (value : Settings.Value) :
    Moves TendedSession (changeSetting key value) := by
  refine chains_tendedSession.bind (tended_of_keeps_host (Keeps.change fun _ => rfl)) fun _ => ?_
  refine chains_tendedSession.bind (chains_tendedSession.look _) fun store => tended_onHost ?_
  refine Host.chains_tended.bind (fun host => ?_) fun _ host => ?_
  · exact (Host.matures_makeDirectories store.directory host).toTended
  · exact (Host.matures_writeContent _ _ host).toTended

theorem tended_storeFlags (flags : Settings.Value) : Moves TendedSession (storeFlags flags) := by
  refine chains_tendedSession.bind (chains_tendedSession.ofExcept _) fun items => ?_
  refine chains_tendedSession.bind (tended_of_keeps_host (Keeps.change fun _ => rfl)) fun _ => ?_
  refine chains_tendedSession.bind (tended_of_keeps_host (Keeps.change fun _ => rfl)) fun _ => ?_
  refine chains_tendedSession.bind (tended_changeSetting _ _) fun _ => ?_
  exact tended_of_keeps_host (Keeps.change fun _ => rfl)

theorem tended_keepOutput (scratch : Scratch) (outType : Settings.Value) (output : Text) :
    Moves TendedSession (keepOutput scratch outType output) := by
  refine chains_tendedSession.bind (tended_onHost fun host => ?_) fun place => ?_
  · exact (scratch.matures_allocate "eval" host).toTended
  refine chains_tendedSession.bind (chains_tendedSession.ofExcept _) fun format => ?_
  refine chains_tendedSession.bind (tended_onHost fun host => ?_) fun _ => ?_
  · exact (Host.matures_writeContent _ _ host).toTended
  refine chains_tendedSession.bind (tended_of_keeps_host (Keeps.change fun _ => rfl)) fun _ => ?_
  exact chains_tendedSession.pure _

theorem tended_evaluateBody (expressions outType : Settings.Value) :
    Moves TendedSession (evaluateBody expressions outType) := by
  intro session
  obtain ⟨ended, launches, same | ⟨output, goesOn⟩⟩ := evaluateBody_ends expressions outType session
  · rw [TendedSession, same]
    exact launches.matures.toTended
  · rw [goesOn]
    exact chains_tendedSession.trans (tended_keepOutput session.scratch outType output _)
      launches.matures.toTended

/-- Requests keep file trees sound and give no temporary name back. -/
theorem tended_perform (request : Request) : Moves TendedSession request.perform := by
  intro session
  cases request with
  | start =>
      exact chains_tendedSession.trans
        (tended_of_surroundings (overlooks_surroundings.view_start (fun _ _ => rfl) session))
        (launches_savedBody session).matures.toTended
  | stop =>
      revert session
      refine chains_tendedSession.bind (tended_of_keeps_host (Keeps.change fun _ => rfl))
        fun _ => ?_
      refine chains_tendedSession.bind (chains_tendedSession.require _) fun published => ?_
      refine chains_tendedSession.bind (tended_of_keeps_host (Keeps.change fun _ => rfl))
        fun _ => ?_
      refine chains_tendedSession.bind (chains_tendedSession.look _) fun scratch => ?_
      exact tended_onHost scratch.tended_cleanup
  | lint => exact (launches_lint session).matures.toTended
  | evaluate expressions outType =>
      revert session
      refine chains_tendedSession.bind (chains_tendedSession.bind (chains_tendedSession.look _)
        fun chosen session => ?_) fun _ => chains_tendedSession.pure ()
      exact chains_tendedSession.trans
        (tended_of_surroundings (overlooks_surroundings.view_perform .evaluate none
          (evaluateBody expressions chosen) session))
        (tended_evaluateBody expressions chosen _)
  | format => exact (launches_format session).matures.toTended
  | reloadSource =>
      exact tended_of_keeps_host
        (Keeps.bind (Keeps.require _) fun _ => keeps_updateState fun _ => rfl) session
  | setOutType outType =>
      revert session
      refine chains_tendedSession.bind (tended_of_keeps_host (Keeps.change fun _ => rfl))
        fun _ => ?_
      exact tended_changeSetting _ _
  | setLintOnSave enabled =>
      revert session
      refine chains_tendedSession.bind (tended_changeSetting _ _) fun _ => ?_
      refine tended_of_keeps_host (Keeps.bind (Keeps.change fun _ => rfl) fun _ => ?_)
      exact Keeps.bind (keeps_updateState fun _ => rfl) fun _ => Keeps.change fun _ => rfl
  | setFlags flags =>
      revert session
      exact chains_tendedSession.bind (tended_storeFlags flags) fun _ session =>
        (launches_lint session).matures.toTended
  | saved path =>
      refine chains_tendedSession.trans
        (tended_of_surroundings (overlooks_surroundings.view_saved path session)) ?_
      refine chains_tendedSession.trans
        (launches_savedBody (session.notedSave path)).matures.toTended ?_
      exact tended_of_surroundings rfl

end Session

end CueWatch
