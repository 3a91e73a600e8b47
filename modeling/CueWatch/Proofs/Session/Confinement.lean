import CueWatch.Proofs.Session.Results

/-!
Contract: the commands of a session stay in its scratch directory.

Owns:
- `Confined`, which says of a later session that nothing has been touched outside of the scratch
  directory but by processes;
- that formats, lints and evaluations, and reading the file again, are confined.

Does not own: requests that write settings, and removing the directory (`Scratch`).
-/

namespace CueWatch.Session

open Attempt

/-- A later session with the same scratch directory, outside of which nothing has been touched. -/
structure Confined (later session : Session) : Prop where
  scratch : later.scratch = session.scratch
  host : Host.Confined session.scratch.root later.host session.host

theorem chains_confined : Chains Confined where
  refl := fun session => ⟨rfl, (Host.chains_confined _).refl session.host⟩
  trans := by
    intro session later latest second first
    have host := second.host
    rw [first.scratch] at host
    exact ⟨second.scratch.trans first.scratch, (Host.chains_confined _).trans host first.host⟩

/-- What a command does to the host with its process is confined. -/
theorem confined_of_launches {command? : Option CueWatch.Command} {session later : Session}
    (kept : later.fixture = session.fixture)
    (launches : Host.Launches command? session.host later.host) : Confined later session :=
  ⟨congrArg Fixture.scratch kept, launches.confined _⟩

/-! ### Keeping what was printed -/

theorem isPlain_resultDirectory (number : Nat) :
    Spelling.IsPlain ("eval" ++ Host.temporaryDigits number) where
  nonempty := nofun
  notHere := nofun
  notUp := nofun
  single := by
    intro member
    rcases List.mem_append.mp member with letter | digit
    · revert letter
      decide
    · exact Host.slash_notMem_temporaryDigits number digit

theorem confined_keepOutput (scratch : Scratch) (outType : Settings.Value) (output : Text)
    (session : Session) :
    Host.Confined scratch.root ((keepOutput scratch outType output).run session).2.host
      session.host := by
  have first := scratch.confined_allocate isPlain_resultDirectory session.host
  rcases keepOutput_ends scratch outType output session with
    ends | ⟨place, made, format, allocated, ends⟩
  · rw [ends]
    exact first
  · rw [allocated] at first
    rw [ends]
    have written := Host.matures_writeContent (evalFileIn place format) (.text output) made
    refine ⟨Host.chains_matures.trans written first.matures, fun own holds => ?_⟩
    obtain ⟨processes, touches⟩ := first.touches own holds
    refine ⟨processes, touches.before_still ?_⟩
    -- The directory that was allocated is one name below, and the file one name further.
    obtain ⟨number, reached, matures, -, -, rfl, isMade⟩ := Scratch.exists_of_allocate allocated
    rw [append_root holds.temporary] at isMade ⊢
    have holds := holds.matures matures
    obtain ⟨inner, _, leads, holdsInner, rfl⟩ := Host.holds_of_makeDirectory holds.sound
      (isTemporary_resultDirectory scratch.root number) isMade
    obtain rfl := holds.place_eq (isPlain_resultDirectory number) (fun _ _ => rfl) leads
    have empty := Host.get?_placed_directory holds.sound leads.free ("eval." ++ format.extension)
    rw [evalFileIn_resultDirectory]
    exact (holdsInner.still_writeContent (.text output) (isPlain_resultName format) empty).mono
      fun path => Path.isAtOrAbove_trans (Path.isAtOrAbove_append own _)

/-! ### Commands -/

theorem confined_reloadSource : Moves Confined reloadSource := by
  have kept : Keeps (fun session : Session => (session.scratch, session.host)) reloadSource :=
    Keeps.bind (Keeps.require _) fun _ => keeps_updateState fun _ => rfl
  intro session
  have scratch : (reloadSource.run session).2.scratch = session.scratch :=
    congrArg Prod.fst (kept session)
  have host : (reloadSource.run session).2.host = session.host := congrArg Prod.snd (kept session)
  refine ⟨scratch, ?_⟩
  rw [host]
  exact (Host.chains_confined _).refl session.host

theorem confined_format : Moves Confined format := fun session =>
  confined_of_launches (keeps_fixture_perform .format session) (launches_format session)

theorem confined_lint : Moves Confined lint := fun session =>
  confined_of_launches (keeps_fixture_perform .lint session) (launches_lint session)

theorem confined_evaluate (expressions outType : Settings.Value) :
    Moves Confined (evaluate expressions outType) := by
  intro session
  let chosen := chosenOutType outType session.state
  let cleared := { session with state := session.state.withError [] }
  have performed := overlooks_surroundings.view_perform .evaluate none
    (evaluateBody expressions chosen) session
  obtain ⟨ended, launches, ends⟩ := evaluateBody_ends expressions chosen cleared
  have chains := Host.chains_confined session.scratch.root
  have kept : ((evaluate expressions outType).run session).2.fixture = session.fixture := by
    have ended := keeps_fixture_perform (.evaluate expressions outType) session
    exact (view_run_bind (evaluate expressions outType) (fun _ => Keeps.pure ()) session).symm.trans
      ended
  refine ⟨congrArg Fixture.scratch kept, ?_⟩
  refine chains.trans (Host.confined_of_unlogged performed) ?_
  rcases ends with same | ⟨output, goesOn⟩
  · rw [same]
    exact launches.confined _
  · rw [goesOn]
    exact chains.trans (confined_keepOutput session.scratch chosen output _) (launches.confined _)

end CueWatch.Session
