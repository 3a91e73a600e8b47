import CueWatch.Failure

/-!
Contract: steps that change a state and may fail.

Owns:
- `Attempt`, whose result is a value or a failure and, in both cases, the state reached;
- its sequencing, looking, failing, rescuing and the run of a step on a part of a larger state;
- the equations that say what each of these does to a state.

Does not own: any particular state.
-/

namespace CueWatch

/-- A step over states of type `σ`. The state it reached is kept when it fails. -/
def Attempt (σ α : Type) : Type := σ → Except Failure α × σ

namespace Attempt

variable {σ τ α β : Type}

def run (step : Attempt σ α) (state : σ) : Except Failure α × σ := step state

/-- The step that only gives a value. -/
def give (value : α) : Attempt σ α := fun state => (.ok value, state)

/-- Runs a step and, if it succeeds, the step that its value selects. -/
def andThen (step : Attempt σ α) (next : α → Attempt σ β) : Attempt σ β := fun state =>
  match step state with
  | (.ok value, reached) => next value reached
  | (.error failure, reached) => (.error failure, reached)

instance : Monad (Attempt σ) where
  pure := give
  bind := andThen

def fail (failure : Failure) : Attempt σ α := fun state => (.error failure, state)

/-- The step that gives what `view` sees of the state. -/
def look (view : σ → α) : Attempt σ α := fun state => (.ok (view state), state)

def change (update : σ → σ) : Attempt σ Unit := fun state => (.ok (), update state)

/-- Gives the value of an outcome or fails with it. -/
def ofExcept : Except Failure α → Attempt σ α
  | .ok value => give value
  | .error failure => fail failure

/-- The step that gives what `view` finds in the state, or fails with the reason why not. -/
def require (view : σ → Except Failure α) : Attempt σ α := fun state => (view state, state)

/-- Runs a step and, if it fails, the step that the failure selects. -/
def rescue (step : Attempt σ α) (handler : Failure → Attempt σ α) : Attempt σ α := fun state =>
  match step state with
  | (.ok value, reached) => (.ok value, reached)
  | (.error failure, reached) => handler failure reached

/-- Runs a step and gives its outcome as a value. -/
def outcome (step : Attempt σ α) : Attempt σ (Except Failure α) := fun state =>
  match step state with
  | (result, reached) => (.ok result, reached)

/-- Runs a step and then, whether or not it failed, a last one. The outcome is that of the first
step. -/
def ensuring (step : Attempt σ α) (last : Attempt σ Unit) : Attempt σ α := fun state =>
  match step state with
  | (result, reached) => (result, (last reached).2)

/-- Runs a step on the part of a state that `view` sees and `store` puts back. -/
def within (view : σ → τ) (store : τ → σ → σ) (step : Attempt τ α) : Attempt σ α := fun state =>
  match step (view state) with
  | (result, reached) => (result, store reached state)

/-! ### What each step does -/

@[simp]
theorem run_pure (value : α) (state : σ) :
    (pure value : Attempt σ α).run state = (.ok value, state) := rfl

@[simp]
theorem run_fail (failure : Failure) (state : σ) :
    (fail failure : Attempt σ α).run state = (.error failure, state) := rfl

@[simp]
theorem run_look (view : σ → α) (state : σ) :
    (look view).run state = (.ok (view state), state) := rfl

@[simp]
theorem run_require (view : σ → Except Failure α) (state : σ) :
    (require view).run state = (view state, state) := rfl

@[simp]
theorem run_change (update : σ → σ) (state : σ) :
    (change update).run state = (.ok (), update state) := rfl

theorem run_bind (step : Attempt σ α) (next : α → Attempt σ β) (state : σ) :
    (step >>= next).run state =
      match step.run state with
      | (.ok value, reached) => (next value).run reached
      | (.error failure, reached) => (.error failure, reached) := rfl

theorem run_bind_of_ok {step : Attempt σ α} {next : α → Attempt σ β} {state reached : σ}
    {value : α} (succeeded : step.run state = (.ok value, reached)) :
    (step >>= next).run state = (next value).run reached := by
  rw [run_bind, succeeded]

theorem run_bind_of_error {step : Attempt σ α} {next : α → Attempt σ β} {state reached : σ}
    {failure : Failure} (failed : step.run state = (.error failure, reached)) :
    (step >>= next).run state = (.error failure, reached) := by
  rw [run_bind, failed]

theorem run_within (view : σ → τ) (store : τ → σ → σ) (step : Attempt τ α) (state : σ) :
    (within view store step).run state =
      ((step.run (view state)).1, store (step.run (view state)).2 state) := rfl

end Attempt

end CueWatch
