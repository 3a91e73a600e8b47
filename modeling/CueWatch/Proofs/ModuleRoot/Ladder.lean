import CueWatch.ModuleRoot
import Mathlib.Data.Nat.Find
import Mathlib.Logic.Function.Iterate

/-!
Contract: the search for a module root, said by the directories on the way up.

Owns:
- `ladder`, the directories from the start up to the boundary, or to one that is its own directory
  if the boundary is missed; it is finite and meets no directory twice;
- induction along the way up;
- `verdict`, what a single directory decides;
- the outcome, the listed directories and the warnings of a search, by the first verdict on the
  ladder.

Does not own: canonical paths, and what it means for the boundary to be above the start.
-/

namespace CueWatch.ModuleRoot

/-! ### The way up -/

/-- Where the way up ends: at the boundary, and at a directory that is its own directory. -/
def IsTop (boundary directory : Text) : Prop :=
  directory = boundary ∨ Spelling.directory directory = directory

instance (boundary directory : Text) : Decidable (IsTop boundary directory) :=
  inferInstanceAs (Decidable (_ ∨ _))

theorem length_directory_lt_of_not_isTop {boundary directory : Text}
    (below : ¬ IsTop boundary directory) :
    (Spelling.directory directory).length < directory.length :=
  Spelling.length_directory_lt fun same => below (.inr same)

/-- Induction along the way up: however paths are spelled, each step makes the path shorter. -/
@[elab_as_elim]
theorem wayUp_induction (boundary : Text) {motive : Text → Prop}
    (atTop : ∀ directory, IsTop boundary directory → motive directory)
    (below : ∀ directory, ¬ IsTop boundary directory →
      motive (Spelling.directory directory) → motive directory)
    (start : Text) : motive start := by
  induction hlength : start.length using Nat.strong_induction_on generalizing start with
  | _ length inductionHypothesis =>
      by_cases top : IsTop boundary start
      · exact atTop start top
      · have shorter := length_directory_lt_of_not_isTop top
        rw [hlength] at shorter
        exact below start top (inductionHypothesis _ shorter (Spelling.directory start) rfl)

/-- The way up ends. -/
theorem exists_isTop (boundary start : Text) :
    ∃ steps, IsTop boundary (Spelling.directory^[steps] start) := by
  induction start using wayUp_induction boundary with
  | atTop directory top => exact ⟨0, top⟩
  | below directory _ inductionHypothesis =>
      obtain ⟨steps, reached⟩ := inductionHypothesis
      exact ⟨steps + 1, by rwa [Function.iterate_succ_apply]⟩

/-- The number of steps to the first directory where the way up ends. -/
def height (boundary start : Text) : Nat := Nat.find (exists_isTop boundary start)

/-- The directories on the way up, the start and the last one included. -/
def ladder (boundary start : Text) : List Text :=
  (List.range (height boundary start + 1)).map fun steps => Spelling.directory^[steps] start

theorem ladder_of_isTop {boundary start : Text} (top : IsTop boundary start) :
    ladder boundary start = [start] := by
  have atOnce : height boundary start = 0 := (Nat.find_eq_zero _).mpr top
  rw [ladder, atOnce]
  rfl

theorem height_of_not_isTop {boundary start : Text} (below : ¬ IsTop boundary start) :
    height boundary start = height boundary (Spelling.directory start) + 1 :=
  Nat.find_comp_succ (exists_isTop boundary start)
    (exists_isTop boundary (Spelling.directory start)) below

theorem ladder_of_not_isTop {boundary start : Text} (below : ¬ IsTop boundary start) :
    ladder boundary start = start :: ladder boundary (Spelling.directory start) := by
  rw [ladder, height_of_not_isTop below, List.range_succ_eq_map, List.map_cons, List.map_map]
  rfl

theorem ladder_ne_nil (boundary start : Text) : ladder boundary start ≠ [] := by
  simp [ladder]

/-- Nothing on the ladder is longer than its start. -/
theorem length_le_of_mem_ladder {boundary start directory : Text}
    (member : directory ∈ ladder boundary start) : directory.length ≤ start.length := by
  obtain ⟨steps, -, rfl⟩ := List.mem_map.mp member
  clear member
  induction steps with
  | zero => exact Nat.le_refl _
  | succ steps inductionHypothesis =>
      rw [Function.iterate_succ_apply']
      exact Nat.le_trans (Spelling.directory_isPrefix _).length_le inductionHypothesis

/-- No directory is met twice. -/
theorem nodup_ladder (boundary start : Text) : (ladder boundary start).Nodup := by
  induction start using wayUp_induction boundary with
  | atTop directory top =>
      rw [ladder_of_isTop top]
      exact List.pairwise_singleton _ directory
  | below directory top inductionHypothesis =>
      rw [ladder_of_not_isTop top, List.nodup_cons]
      refine ⟨fun again => ?_, inductionHypothesis⟩
      have shorter := length_directory_lt_of_not_isTop top
      exact absurd (length_le_of_mem_ladder again) (Nat.not_le.mpr shorter)

/-! ### What decides -/

/-- What a directory decides, if anything: one that cannot be listed fails the search, and one with
a marker ends it. An interruption of the listing is passed on as it is. -/
def verdict (lister : Lister) (directory : Text) : Option (Except Failure Text) :=
  match lister directory with
  | .error cause =>
      some (.error (if cause.isInterrupt then cause else .unreadableDirectory directory cause))
  | .ok names => if ∃ name ∈ names, marker <:+ name then some (.ok directory) else none

/-- Whether a directory decides the search. -/
def isDecisive (lister : Lister) (directory : Text) : Bool := (verdict lister directory).isSome

/-- The warnings that a search leaves. -/
def Search.warnings (search : Search) : List Journal.Record :=
  search.records.filter fun record => record.level = .warning

theorem verdict_of_error {lister : Lister} {directory : Text} {cause : Failure}
    (refused : lister directory = .error cause) :
    verdict lister directory = some (.error
      (if cause.isInterrupt then cause else .unreadableDirectory directory cause)) := by
  rw [verdict, refused]

theorem any_isMarker_iff (names : List Text) :
    names.any isMarker = true ↔ ∃ name ∈ names, marker <:+ name := by
  simp [isMarker]

theorem verdict_of_marked {lister : Lister} {directory : Text} {names : List Text}
    (listed : lister directory = .ok names) (marked : names.any isMarker = true) :
    verdict lister directory = some (.ok directory) := by
  rw [verdict, listed]
  exact if_pos ((any_isMarker_iff names).mp marked)

theorem verdict_of_unmarked {lister : Lister} {directory : Text} {names : List Text}
    (listed : lister directory = .ok names) (unmarked : ¬ names.any isMarker = true) :
    verdict lister directory = none := by
  rw [verdict, listed]
  exact if_neg (mt (any_isMarker_iff names).mpr unmarked)

/-! ### One directory of the climb -/

section Climb

variable {lister : Lister} {boundary start current : Text}

/-- A directory that decides is the last one listed, and its verdict is the outcome. -/
theorem climb_of_decisive (boundary start : Text) {outcome : Except Failure Text}
    (decides : verdict lister current = some outcome) :
    (climb lister boundary start current).outcome = outcome ∧
      (climb lister boundary start current).listed = [current] ∧
      (climb lister boundary start current).warnings = [] := by
  rw [climb]
  split
  next cause refused =>
    rw [verdict_of_error refused] at decides
    obtain rfl := Option.some.inj decides
    split <;> exact ⟨rfl, rfl, rfl⟩
  next names listed =>
    by_cases marked : names.any isMarker = true
    · rw [verdict_of_marked listed marked] at decides
      obtain rfl := Option.some.inj decides
      rw [if_pos marked]
      exact ⟨rfl, rfl, rfl⟩
    · rw [verdict_of_unmarked listed marked] at decides
      exact absurd decides (Option.some_ne_none outcome).symm

theorem exists_listed_of_idle (idle : verdict lister current = none) :
    ∃ names, lister current = .ok names ∧ ¬ names.any isMarker = true := by
  cases listing : lister current with
  | error cause =>
      rw [verdict_of_error listing] at idle
      exact absurd idle (Option.some_ne_none _)
  | ok names =>
      refine ⟨names, rfl, fun marked => ?_⟩
      rw [verdict_of_marked listing marked] at idle
      exact absurd idle (Option.some_ne_none _)

/-- Where the way up ends undecided, no root is found; a warning says so if the boundary has been
missed. -/
theorem climb_of_idle_top (idle : verdict lister current = none) (top : IsTop boundary current) :
    climb lister boundary start current =
      ⟨.error (.rootNotFound boundary start), [current],
        if current = boundary then [] else [missedRecord boundary start]⟩ := by
  obtain ⟨names, listed, unmarked⟩ := exists_listed_of_idle idle
  rw [climb, listed]
  simp only [if_neg unmarked]
  by_cases atBoundary : current = boundary
  · simp only [if_pos atBoundary]
  · have own : Spelling.directory current = current := top.resolve_left atBoundary
    simp only [if_neg atBoundary]
    rw [dif_neg (not_not_intro own)]

/-- Below the end of the way up, an undecided search goes on above. -/
theorem climb_of_idle_below (idle : verdict lister current = none)
    (below : ¬ IsTop boundary current) :
    climb lister boundary start current =
      (climb lister boundary start (Spelling.directory current)).after current := by
  obtain ⟨names, listed, unmarked⟩ := exists_listed_of_idle idle
  have notBoundary : current ≠ boundary := fun same => below (.inl same)
  have moved : Spelling.directory current ≠ current := fun same => below (.inr same)
  conv_lhs => rw [climb, listed]
  simp only [if_neg unmarked, if_neg notBoundary, dif_pos moved]

end Climb

/-! ### The whole climb -/

/-- What the directories on the way up have to say about a search that began at `start`. -/
structure Follows (lister : Lister) (boundary start : Text) (rungs : List Text)
    (search : Search) : Prop where
  outcome : search.outcome =
    (rungs.findSome? (verdict lister)).getD (.error (.rootNotFound boundary start))
  listed : search.listed = rungs.take (rungs.findIdx (isDecisive lister) + 1)
  warnings : search.warnings =
    if (∀ rung ∈ rungs, verdict lister rung = none) ∧ rungs.getLast? ≠ some boundary
      then [missedRecord boundary start] else []

theorem follows_of_decisive {lister : Lister} {boundary start rung : Text} (rungs : List Text)
    {outcome : Except Failure Text} {search : Search}
    (decides : verdict lister rung = some outcome) (found : search.outcome = outcome)
    (alone : search.listed = [rung]) (silent : search.warnings = []) :
    Follows lister boundary start (rung :: rungs) search where
  outcome := by simp [found, decides]
  listed := by simp [alone, List.findIdx_cons, isDecisive, decides]
  warnings := by simp [silent, decides]

theorem follows_of_idle_top {lister : Lister} {boundary start rung : Text}
    (idle : verdict lister rung = none) :
    Follows lister boundary start [rung]
      ⟨.error (.rootNotFound boundary start), [rung],
        if rung = boundary then [] else [missedRecord boundary start]⟩ where
  outcome := by simp [idle]
  listed := by simp
  warnings := by
    by_cases atBoundary : rung = boundary
    · simp [Search.warnings, atBoundary]
    · simp [Search.warnings, atBoundary, idle, missedRecord]

theorem Follows.after {lister : Lister} {boundary start rung : Text} {rungs : List Text}
    {search : Search} (above : Follows lister boundary start rungs search)
    (more : rungs ≠ []) (idle : verdict lister rung = none) :
    Follows lister boundary start (rung :: rungs) (search.after rung) where
  outcome := by
    rw [List.findSome?_cons, idle]
    exact above.outcome
  listed := by
    rw [List.findIdx_cons]
    simp [Search.after, above.listed, isDecisive, idle]
  warnings := by
    obtain ⟨next, rest, rfl⟩ := List.exists_cons_of_ne_nil more
    change search.warnings = _
    rw [above.warnings]
    simp only [List.forall_mem_cons, List.getLast?_cons_cons, idle, true_and]

/-- A climb does what the ladder from its present directory says. -/
theorem follows_climb (lister : Lister) (boundary start current : Text) :
    Follows lister boundary start (ladder boundary current)
      (climb lister boundary start current) := by
  induction current using wayUp_induction boundary with
  | atTop current top =>
      rw [ladder_of_isTop top]
      cases decides : verdict lister current with
      | some outcome =>
          obtain ⟨found, alone, silent⟩ := climb_of_decisive boundary start decides
          exact follows_of_decisive [] decides found alone silent
      | none =>
          rw [climb_of_idle_top decides top]
          exact follows_of_idle_top decides
  | below current top inductionHypothesis =>
      rw [ladder_of_not_isTop top]
      cases decides : verdict lister current with
      | some outcome =>
          obtain ⟨found, alone, silent⟩ := climb_of_decisive boundary start decides
          exact follows_of_decisive _ decides found alone silent
      | none =>
          rw [climb_of_idle_below decides top]
          exact inductionHypothesis.after (ladder_ne_nil _ _) decides

/-- A search is decided by the first directory on the way up that cannot be listed or holds a
marker; undecided, it finds no root. It lists the directories up to the one that decides, in order
and none twice, and warns exactly when it ends undecided at a directory other than the boundary. -/
theorem search_by_first_verdict (lister : Lister) (boundary start : Text) :
    (search lister boundary start).outcome =
        ((ladder boundary start).findSome? (verdict lister)).getD
          (.error (.rootNotFound boundary start)) ∧
      (search lister boundary start).listed =
        (ladder boundary start).take ((ladder boundary start).findIdx (isDecisive lister) + 1) ∧
      (search lister boundary start).warnings =
        (if (∀ rung ∈ ladder boundary start, verdict lister rung = none) ∧
            (ladder boundary start).getLast? ≠ some boundary
          then [missedRecord boundary start] else []) ∧
      (search lister boundary start).listed.Nodup := by
  have follows := follows_climb lister boundary start start
  refine ⟨follows.outcome, follows.listed, follows.warnings, ?_⟩
  rw [search, follows.listed]
  exact (nodup_ladder boundary start).sublist (List.take_sublist _ _)

end CueWatch.ModuleRoot
