import CueWatch.Attempt

/-!
Contract: which part of a state a step leaves as it was.

Owns:
- what rescued, given and composed steps do;
- `Attempt.Keeps`, which says that a step leaves what a view sees as it was, whether or not the
  step fails, with one rule for each way to build steps;
- what a view sees after a step that is followed, or rescued, by one that keeps it;
- `Attempt.Total`, the steps that cannot fail, and `Attempt.Atomic`, which says that a step leaves
  what a view sees as it was whenever it fails;
- `Attempt.Moves`, which says that a relation holds between the state after a step and the one
  before, with one rule for each way to build steps; the relation has to go on from step to step;
- `Attempt.MovesUnless`, for steps that need not do so when they fail in a way of their own.

Does not own: any particular view.
-/

namespace CueWatch.Attempt

variable {σ τ α β γ : Type}

theorem run_rescue (step : Attempt σ α) (handler : Failure → Attempt σ α) (state : σ) :
    (step.rescue handler).run state =
      match step.run state with
      | (.ok value, reached) => (.ok value, reached)
      | (.error failure, reached) => (handler failure).run reached := rfl

@[simp]
theorem run_ofExcept (outcome : Except Failure α) (state : σ) :
    (ofExcept outcome).run state = (outcome, state) := by
  cases outcome <;> rfl

theorem ofExcept_bind_ok (value : α) (next : α → Attempt σ β) :
    (ofExcept (.ok value) >>= next) = next value := rfl

theorem run_ensuring (step : Attempt σ α) (last : Attempt σ Unit) (state : σ) :
    (step.ensuring last).run state = ((step.run state).1, (last.run (step.run state).2).2) := rfl

/-- What fails in its first step fails as a whole. -/
theorem fst_run_bind_of_error {step : Attempt σ α} {next : α → Attempt σ β} {state : σ}
    {failure : Failure} (failed : (step.run state).1 = .error failure) :
    ((step >>= next).run state).1 = .error failure :=
  congrArg Prod.fst (run_bind_of_error (Prod.ext failed rfl))

/-- What succeeds as a whole has succeeded in its first step and in the rest. -/
theorem exists_of_run_bind_ok {step : Attempt σ α} {next : α → Attempt σ β} {state : σ} {result : β}
    (succeeded : ((step >>= next).run state).1 = .ok result) :
    ∃ value reached, step.run state = (.ok value, reached) ∧
      ((next value).run reached).1 = .ok result := by
  rw [run_bind] at succeeded
  rcases ran : step.run state with ⟨failure | value, reached⟩
  · rw [ran] at succeeded
    cases succeeded
  · rw [ran] at succeeded
    exact ⟨value, reached, rfl, succeeded⟩

/-- A step succeeds as a whole exactly if its first step and the rest do. -/
theorem run_bind_eq_ok_iff {step : Attempt σ α} {next : α → Attempt σ β} {state last : σ}
    {result : β} :
    (step >>= next).run state = (.ok result, last) ↔
      ∃ value reached, step.run state = (.ok value, reached) ∧
        (next value).run reached = (.ok result, last) := by
  constructor
  · intro succeeded
    obtain ⟨value, reached, ran, -⟩ := exists_of_run_bind_ok (congrArg Prod.fst succeeded)
    rw [run_bind_of_ok ran] at succeeded
    exact ⟨value, reached, ran, succeeded⟩
  · rintro ⟨value, reached, ran, succeeded⟩
    rw [run_bind_of_ok ran, succeeded]

/-- A step leaves what a view sees as it was, whether or not it fails. -/
def Keeps (view : σ → γ) (step : Attempt σ α) : Prop :=
  ∀ state, view (step.run state).2 = view state

namespace Keeps

variable {view : σ → γ}

theorem pure (value : α) : Keeps view (Pure.pure value : Attempt σ α) := fun _ => rfl

theorem fail (failure : Failure) : Keeps view (Attempt.fail failure : Attempt σ α) := fun _ => rfl

theorem look (see : σ → α) : Keeps view (Attempt.look see) := fun _ => rfl

theorem require (see : σ → Except Failure α) : Keeps view (Attempt.require see) := fun _ => rfl

theorem ofExcept (outcome : Except Failure α) :
    Keeps view (Attempt.ofExcept outcome : Attempt σ α) := by
  intro state
  rw [run_ofExcept]

theorem change {update : σ → σ} (kept : ∀ state, view (update state) = view state) :
    Keeps view (Attempt.change update) := kept

theorem within {see : σ → τ} {store : τ → σ → σ} (step : Attempt τ α)
    (kept : ∀ part state, view (store part state) = view state) :
    Keeps view (Attempt.within see store step) := by
  intro state
  rw [run_within]
  exact kept _ state

end Keeps

/-- What follows a step does not count for a view that it keeps. -/
theorem view_run_bind {view : σ → γ} (step : Attempt σ α) {next : α → Attempt σ β}
    (kept : ∀ value, Keeps view (next value)) (state : σ) :
    view ((step >>= next).run state).2 = view (step.run state).2 := by
  rw [run_bind]
  split
  next value reached succeeded => rw [kept value reached, succeeded]
  next failure reached failed => rw [failed]

/-- What rescues a step does not count for a view that it keeps. -/
theorem view_run_rescue {view : σ → γ} (step : Attempt σ α) {handler : Failure → Attempt σ α}
    (kept : ∀ failure, Keeps view (handler failure)) (state : σ) :
    view ((step.rescue handler).run state).2 = view (step.run state).2 := by
  rw [run_rescue]
  split
  next value reached succeeded => rw [succeeded]
  next failure reached failed => rw [kept failure reached, failed]

namespace Keeps

variable {view : σ → γ}

theorem bind {step : Attempt σ α} {next : α → Attempt σ β} (first : Keeps view step)
    (later : ∀ value, Keeps view (next value)) : Keeps view (step >>= next) := by
  intro state
  rw [view_run_bind step later, first state]

theorem rescue {step : Attempt σ α} {handler : Failure → Attempt σ α} (first : Keeps view step)
    (later : ∀ failure, Keeps view (handler failure)) : Keeps view (step.rescue handler) := by
  intro state
  rw [view_run_rescue step later, first state]

theorem ite {condition : Prop} [Decidable condition] {step other : Attempt σ α}
    (first : Keeps view step) (second : Keeps view other) :
    Keeps view (if condition then step else other) := by
  split
  · exact first
  · exact second

end Keeps

/-! ### Steps that cannot fail, and steps that fail without a trace -/

/-- A step does not fail. -/
def Total (step : Attempt σ α) : Prop :=
  ∀ state, ∃ value reached, step.run state = (.ok value, reached)

namespace Total

theorem pure (value : α) : Total (Pure.pure value : Attempt σ α) := fun state => ⟨value, state, rfl⟩

theorem change (update : σ → σ) : Total (Attempt.change update) :=
  fun state => ⟨(), update state, rfl⟩

theorem bind {step : Attempt σ α} {next : α → Attempt σ β} (first : Total step)
    (later : ∀ value, Total (next value)) : Total (step >>= next) := by
  intro state
  obtain ⟨value, reached, ran⟩ := first state
  rw [run_bind_of_ok ran]
  exact later value reached

end Total

/-- A step that fails leaves what a view sees as it was. -/
def Atomic (view : σ → γ) (step : Attempt σ α) : Prop :=
  ∀ state failure reached, step.run state = (.error failure, reached) → view reached = view state

theorem Keeps.atomic {view : σ → γ} {step : Attempt σ α} (kept : Keeps view step) :
    Atomic view step := by
  intro state failure reached failed
  have same := kept state
  rwa [failed] at same

theorem Total.atomic {view : σ → γ} {step : Attempt σ α} (total : Total step) :
    Atomic view step := by
  intro state failure reached failed
  obtain ⟨value, other, succeeded⟩ := total state
  rw [succeeded] at failed
  cases failed

namespace Atomic

variable {view : σ → γ}

/-- Before a step that fails without a trace, others may stand that keep the view. -/
theorem bind {step : Attempt σ α} {next : α → Attempt σ β} (first : Keeps view step)
    (later : ∀ value, Atomic view (next value)) : Atomic view (step >>= next) := by
  intro state failure reached failed
  rcases ran : step.run state with ⟨stopped | value, between⟩
  · rw [run_bind_of_error ran] at failed
    obtain ⟨-, rfl⟩ := Prod.mk.inj failed
    exact first.atomic state stopped between ran
  · rw [run_bind_of_ok ran] at failed
    have kept := first state
    rw [ran] at kept
    exact (later value between failure reached failed).trans kept

/-- After a step that fails without a trace, others may stand that cannot fail. -/
theorem bind_total {step : Attempt σ α} {next : α → Attempt σ β} (first : Atomic view step)
    (later : ∀ value, Total (next value)) : Atomic view (step >>= next) := by
  intro state failure reached failed
  rcases ran : step.run state with ⟨stopped | value, between⟩
  · rw [run_bind_of_error ran] at failed
    obtain ⟨-, rfl⟩ := Prod.mk.inj failed
    exact first state stopped between ran
  · obtain ⟨result, last, succeeded⟩ := later value between
    rw [run_bind_of_ok ran, succeeded] at failed
    cases failed

theorem rescue {step : Attempt σ α} {handler : Failure → Attempt σ α} (first : Atomic view step)
    (later : ∀ failure, Atomic view (handler failure)) : Atomic view (step.rescue handler) := by
  intro state failure reached failed
  rw [run_rescue] at failed
  rcases ran : step.run state with ⟨stopped | value, between⟩
  · rw [ran] at failed
    exact (later stopped between failure reached failed).trans (first state stopped between ran)
  · rw [ran] at failed
    cases failed

end Atomic

/-! ### Steps that move along a relation -/

/-- A relation between a later state and an earlier one goes on from step to step. -/
structure Chains (relation : σ → σ → Prop) : Prop where
  refl : ∀ state, relation state state
  trans : ∀ {state later latest}, relation latest later → relation later state →
    relation latest state

/-- The state after a step is related to the one before, whether or not the step fails. -/
def Moves (relation : σ → σ → Prop) (step : Attempt σ α) : Prop :=
  ∀ state, relation (step.run state).2 state

namespace Chains

variable {relation : σ → σ → Prop} (chains : Chains relation)

include chains

theorem pure (value : α) : Moves relation (Pure.pure value) := chains.refl

theorem fail (failure : Failure) : Moves relation (Attempt.fail failure : Attempt σ α) :=
  chains.refl

theorem look (view : σ → α) : Moves relation (Attempt.look view) := chains.refl

theorem require (view : σ → Except Failure α) : Moves relation (Attempt.require view) :=
  chains.refl

theorem ofExcept (outcome : Except Failure α) : Moves relation (Attempt.ofExcept outcome) := by
  intro state
  rw [run_ofExcept]
  exact chains.refl state

theorem bind_at {step : Attempt σ α} {next : α → Attempt σ β} {state : σ}
    (first : relation (step.run state).2 state) (later : ∀ value, Moves relation (next value)) :
    relation ((step >>= next).run state).2 state := by
  rcases ran : step.run state with ⟨failure | value, reached⟩
  · rw [run_bind_of_error ran]
    rwa [ran] at first
  · rw [run_bind_of_ok ran]
    rw [ran] at first
    exact chains.trans (later value reached) first

theorem bind {step : Attempt σ α} {next : α → Attempt σ β} (first : Moves relation step)
    (later : ∀ value, Moves relation (next value)) : Moves relation (step >>= next) :=
  fun state => chains.bind_at (first state) later

theorem rescue {step : Attempt σ α} {handler : Failure → Attempt σ α} (first : Moves relation step)
    (later : ∀ failure, Moves relation (handler failure)) : Moves relation (step.rescue handler) := by
  intro state
  have reaches := first state
  rw [run_rescue]
  rcases ran : step.run state with ⟨failure | value, reached⟩
  · rw [ran] at reaches
    exact chains.trans (later failure reached) reaches
  · rwa [ran] at reaches

end Chains

theorem Moves.ite {relation : σ → σ → Prop} {condition : Prop} [Decidable condition]
    {step other : Attempt σ α} (first : Moves relation step) (second : Moves relation other) :
    Moves relation (if condition then step else other) := by
  split
  · exact first
  · exact second

/-- A step moves along a relation, unless it fails in a way that counts as a stop. -/
def MovesUnless (stops : Failure → Prop) (relation : σ → σ → Prop) (step : Attempt σ α) : Prop :=
  ∀ state, (∀ failure, (step.run state).1 = .error failure → ¬ stops failure) →
    relation (step.run state).2 state

theorem Moves.unless {relation : σ → σ → Prop} {step : Attempt σ α} (moves : Moves relation step)
    (stops : Failure → Prop) : MovesUnless stops relation step := fun state _ => moves state

theorem Chains.bind_unless {relation : σ → σ → Prop} (chains : Chains relation)
    {stops : Failure → Prop} {step : Attempt σ α} {next : α → Attempt σ β}
    (first : MovesUnless stops relation step)
    (later : ∀ value, MovesUnless stops relation (next value)) :
    MovesUnless stops relation (step >>= next) := by
  intro state goesOn
  have reaches := first state
  rcases ran : step.run state with ⟨failure | value, reached⟩
  · rw [run_bind_of_error ran] at goesOn ⊢
    rw [ran] at reaches
    exact reaches fun other same => goesOn other (congrArg Except.error (Except.error.inj same))
  · rw [run_bind_of_ok ran] at goesOn ⊢
    rw [ran] at reaches
    exact chains.trans (later value reached goesOn) (reaches nofun)

end CueWatch.Attempt
