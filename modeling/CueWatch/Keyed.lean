/-!
Contract: dictionaries that remember the order in which their keys were first put.

Owns:
- `Keyed`, a list of pairs, with `find?`, `put`, `erase`, `merge` and `keys`;
- the laws of look-up after `put` and `erase`, and of the keys after `put`.

Does not own: a proof that no key occurs twice; `put` keeps it and `find?` reads the first pair.
-/

namespace CueWatch

/-- A dictionary as the list of its pairs, in the order in which their keys were first put. -/
abbrev Keyed (κ β : Type) := List (κ × β)

namespace Keyed

variable {κ β : Type} [DecidableEq κ]

def find? (key : κ) : Keyed κ β → Option β
  | [] => none
  | (k, v) :: rest => if k = key then some v else find? key rest

def has (key : κ) (pairs : Keyed κ β) : Bool := (find? key pairs).isSome

/-- Puts a value under a key: a present key keeps its place, a new one goes to the end. -/
def put (key : κ) (value : β) : Keyed κ β → Keyed κ β
  | [] => [(key, value)]
  | (k, v) :: rest => if k = key then (k, value) :: rest else (k, v) :: put key value rest

def erase (key : κ) (pairs : Keyed κ β) : Keyed κ β := pairs.filter fun pair => pair.1 ≠ key

def keys (pairs : Keyed κ β) : List κ := pairs.map Prod.fst

/-- Puts every pair of `additions`, in order. -/
def merge (pairs additions : Keyed κ β) : Keyed κ β :=
  additions.foldl (fun merged pair => put pair.1 pair.2 merged) pairs

@[simp]
theorem find?_nil (key : κ) : find? key ([] : Keyed κ β) = none := rfl

@[simp]
theorem find?_put_self (key : κ) (value : β) (pairs : Keyed κ β) :
    find? key (put key value pairs) = some value := by
  induction pairs with
  | nil => simp [put, find?]
  | cons pair rest inductionHypothesis =>
      by_cases same : pair.1 = key
      · simp [put, find?, same]
      · simp [put, find?, same, inductionHypothesis]

theorem find?_put_of_ne {key other : κ} (distinct : key ≠ other) (value : β)
    (pairs : Keyed κ β) :
    find? other (put key value pairs) = find? other pairs := by
  induction pairs with
  | nil => simp [put, find?, distinct]
  | cons pair rest inductionHypothesis =>
      by_cases same : pair.1 = key
      · subst same
        simp [put, find?, distinct]
      · by_cases here : pair.1 = other
        · have apart : ¬other = key := fun equal => distinct equal.symm
          simp [put, find?, here, apart]
        · simp [put, find?, same, here, inductionHypothesis]

@[simp]
theorem find?_erase_self (key : κ) (pairs : Keyed κ β) : find? key (erase key pairs) = none := by
  induction pairs with
  | nil => rfl
  | cons pair rest inductionHypothesis =>
      by_cases same : pair.1 = key
      · simpa [erase, same] using inductionHypothesis
      · have kept : erase key (pair :: rest) = pair :: erase key rest := by simp [erase, same]
        rw [kept, find?, if_neg same, inductionHypothesis]

theorem find?_erase_of_ne {key other : κ} (distinct : key ≠ other) (pairs : Keyed κ β) :
    find? other (erase key pairs) = find? other pairs := by
  induction pairs with
  | nil => rfl
  | cons pair rest inductionHypothesis =>
      by_cases same : pair.1 = key
      · have dropped : erase key (pair :: rest) = erase key rest := by simp [erase, same]
        have notHere : pair.1 ≠ other := fun here => distinct (same.symm.trans here)
        rw [dropped, inductionHypothesis, find?, if_neg notHere]
      · have kept : erase key (pair :: rest) = pair :: erase key rest := by simp [erase, same]
        rw [kept, find?, find?, inductionHypothesis]

/-- A present key keeps its place; a new one goes to the end. -/
theorem keys_put (key : κ) (value : β) (pairs : Keyed κ β) :
    keys (put key value pairs) = if key ∈ keys pairs then keys pairs else keys pairs ++ [key] := by
  induction pairs with
  | nil => simp [put, keys]
  | cons pair rest inductionHypothesis =>
      by_cases same : pair.1 = key
      · simp [put, keys, same]
      · have differs : key ≠ pair.1 := fun equal => same equal.symm
        simp only [put, if_neg same, keys, List.map_cons, List.mem_cons, differs, false_or]
        have step := inductionHypothesis
        simp only [keys] at step
        rw [step]
        by_cases present : key ∈ rest.map Prod.fst <;> simp [present]

end Keyed

end CueWatch
