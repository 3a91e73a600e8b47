import CueWatch.Proofs.Host.Confinement
import CueWatch.Scratch

/-!
Contract: what scratch directories do to a host.

Owns:
- that a scratch directory is made where nothing was, or nothing is changed;
- that allocating only adds to the file tree, which directory it makes, and that it stays in the
  scratch directory;
- that removing the scratch directory keeps the file tree sound, and leaves nothing of it.

Does not own: what is written there (`Proofs.Session.Results`).
-/

namespace CueWatch.Scratch

open Attempt

/-- When no temporary directory is made, nothing has changed but the names that have been drawn. -/
theorem atomic_makeTemporary {γ : Type} {view : Host → γ}
    (blind : ∀ (host : Host) (number : Nat), view { host with drawn := number } = view host)
    (start directory : Text) : Atomic view (Host.makeTemporary start directory) := by
  have draws : ∀ draws, Atomic view (Host.makeTemporaryFrom start directory draws) := by
    intro draws
    induction draws with
    | zero => exact (Keeps.fail _).atomic
    | succ draws inductionHypothesis =>
        refine Atomic.bind (Keeps.change fun host => blind host _) fun _ => ?_
        refine Atomic.bind (Keeps.look _) fun number => ?_
        refine Atomic.rescue (Atomic.bind_total ?_ fun _ => Total.pure _) fun failure => ?_
        · intro host failure reached failed
          rw [Host.eq_of_makeDirectory_error failed]
        · split
          · exact inductionHypothesis
          · exact (Keeps.fail failure).atomic
  exact Atomic.bind (Keeps.look _) fun entries => draws _

/-- When no scratch directory is made, nothing has changed. -/
theorem atomic_create (start : Text) : Atomic Host.standing (create start) := by
  refine Atomic.bind (Keeps.look _) fun directory => ?_
  refine Atomic.bind_total (atomic_makeTemporary (fun _ _ => rfl) start directory) fun root => ?_
  exact Total.bind (Total.change _) fun _ => Total.pure _

/-- A scratch directory is made where nothing was, and nothing else changes. -/
theorem exists_of_create {start : Text} {scratch : Scratch} {host made : Host}
    (sound : host.tree.Sound) (ran : (create start).run host = (.ok scratch, made)) :
    ∃ own, Host.Holds scratch.root own made ∧
      Host.Still (fun path => own.isAtOrAbove path = true) made host ∧
      ∀ path, own.isAtOrAbove path = true → host.tree.get? path = none := by
  obtain ⟨directory, _, looked, ran⟩ := run_bind_eq_ok_iff.mp ran
  obtain ⟨-, rfl⟩ := Prod.mk.inj looked
  obtain ⟨root, allocated, isAllocated, ran⟩ := run_bind_eq_ok_iff.mp ran
  obtain ⟨_, logged, isLogged, ran⟩ := run_bind_eq_ok_iff.mp ran
  obtain ⟨-, rfl⟩ := Prod.mk.inj isLogged
  obtain ⟨same, rfl⟩ := Prod.mk.inj ran
  obtain rfl := Except.ok.inj same
  obtain ⟨number, later, rfl, isMade⟩ := Host.exists_of_makeTemporary isAllocated
  let drawn : Host := { host with drawn := number }
  have soundDrawn : drawn.tree.Sound := sound
  obtain ⟨own, _, leads, holds, rfl⟩ :=
    Host.holds_of_makeDirectory soundDrawn (Host.isTemporary_append directory start number) isMade
  have still : Host.Still (fun path => own.isAtOrAbove path = true)
      (Host.placed own .directory drawn) drawn :=
    .of_placed (Path.isAtOrAbove_refl own) .directory drawn
  exact ⟨own, holds.matures (Host.matures_log _ _ _), ⟨still.processes, still.outside⟩,
    fun path isInside => sound.get?_of_above leads.free.free isInside⟩

theorem moves_allocate {relation : Host → Host → Prop} (chains : Chains relation)
    (makingTree : ∀ path, Moves relation (Host.makeTree true path))
    (makingTemporary : ∀ start directory, Moves relation (Host.makeTemporary start directory))
    (scratch : Scratch) (start : Text) : Moves relation (scratch.allocate start) := by
  refine chains.bind (chains.look _) fun isThere => ?_
  split
  · exact makingTemporary start scratch.root
  · exact chains.bind (makingTree scratch.root) fun _ => makingTemporary start scratch.root

theorem additive_allocate (scratch : Scratch) (start : Text) :
    Host.Additive (scratch.allocate start) :=
  moves_allocate Host.chains_extends (Host.additive_makeTree true) Host.additive_makeTemporary
    scratch start

theorem matures_allocate (scratch : Scratch) (start : Text) :
    Moves Host.Matures (scratch.allocate start) :=
  moves_allocate Host.chains_matures (Host.matures_makeTree true) Host.matures_makeTemporary
    scratch start

/-- The directory that is allocated is made last, under a number that was not drawn before. -/
theorem exists_of_allocate {scratch : Scratch} {start place : Text} {host made : Host}
    (ran : (scratch.allocate start).run host = (.ok place, made)) :
    ∃ number reached, Host.Matures reached host ∧ host.drawn < number ∧ made.drawn = number ∧
      place = Spelling.append scratch.root (start ++ Host.temporaryDigits number) ∧
      (Host.makeDirectory place).run reached = (.ok (), made) := by
  obtain ⟨between, matures, ran⟩ : ∃ between, Host.Matures between host ∧
      (Host.makeTemporary start scratch.root).run between = (.ok place, made) := by
    rw [allocate, run_bind_of_ok (run_look _ host)] at ran
    split at ran
    next => exact ⟨host, Host.chains_matures.refl host, ran⟩
    next =>
      obtain ⟨_, between, isMade, ran⟩ := run_bind_eq_ok_iff.mp ran
      have matures := Host.matures_makeTree true scratch.root host
      rw [isMade] at matures
      exact ⟨between, matures, ran⟩
  obtain ⟨number, later, written, isMade⟩ := Host.exists_of_makeTemporary ran
  have drawn : Host.Matures { between with drawn := number } between :=
    Host.matures_of_same rfl rfl (Nat.le_of_lt later)
  obtain ⟨spot, _, _, isPlaced⟩ := Host.exists_of_makeDirectory isMade
  exact ⟨number, _, Host.chains_matures.trans drawn matures,
    Nat.lt_of_le_of_lt matures.drawn later, congrArg Host.drawn isPlaced, written, isMade⟩

/-- Allocating stays in the scratch directory, if that is there. -/
theorem confined_allocate (scratch : Scratch) {start : Text}
    (plain : ∀ number, Spelling.IsPlain (start ++ Host.temporaryDigits number)) :
    Moves (Host.Confined scratch.root) (scratch.allocate start) := by
  intro host
  refine ⟨matures_allocate scratch start host, fun own holds => ?_⟩
  have making : ∀ number, Moves (Host.Confined scratch.root)
      (Host.makeDirectory
        (Spelling.append scratch.root (start ++ Host.temporaryDigits number))) := by
    intro number
    have temporary := Host.isTemporary_append scratch.root start number
    rw [holds.temporary.append (plain number).isAbsolute] at temporary ⊢
    exact Host.confined_makeDirectory temporary (plain number)
  have drawing : ∀ host : Host,
      Host.Confined scratch.root { host with drawn := host.drawn + 1 } host := fun host =>
    ⟨Host.matures_of_same rfl rfl (Nat.le_succ host.drawn), fun _ _ => ⟨[], rfl, fun _ _ => rfl⟩⟩
  rw [allocate, run_bind_of_ok (run_look _ host), if_pos holds.isDirectory?]
  exact (Host.moves_makeTemporary (Host.chains_confined _) making drawing host).touches own holds

theorem tended_cleanup (scratch : Scratch) : Moves Host.Tended scratch.cleanup := by
  refine Host.chains_tended.bind (Host.chains_tended.require _) fun isThere => ?_
  refine Moves.ite ?_ (Host.chains_tended.pure ())
  refine Host.chains_tended.bind (Host.tended_removeTree scratch.root) fun _ host => ?_
  exact (Host.matures_log _ _ host).toTended

/-- Removing the scratch directory leaves nothing of it, and all else as it was. -/
theorem still_cleanup {scratch : Scratch} {own : Path} {host : Host}
    (holds : Host.Holds scratch.root own host) :
    Host.Still (fun path => own.isAtOrAbove path = true) (scratch.cleanup.run host).2 host ∧
      ∀ path, own.isAtOrAbove path = true →
        (scratch.cleanup.run host).2.tree.get? path = none := by
  have isThere : (Attempt.require (Host.isPresent scratch.root)).run host = (.ok true, host) := by
    rw [run_require, Host.isPresent, holds.found true]
  rw [cleanup, run_bind_of_ok isThere, if_pos rfl, run_bind_of_ok (run_change _ host)]
  obtain ⟨still, gone⟩ := Host.still_removeTree holds
  exact ⟨⟨still.processes, still.outside⟩, gone⟩

end CueWatch.Scratch
