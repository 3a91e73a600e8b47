import CueWatch.Text.Basic

/-!
Contract: the parts of the program that write to the journal, by dotted names.

Owns:
- `beforeLastDot?` and `above`, the names of the parts that a part can be inside of;
- `isInside`, whether a part is another one or inside it, among the parts that are known.

Does not own: what a part's level is (`Journal.Setup`).
-/

namespace CueWatch.Journal.Part

/-- A name up to its last dot. -/
def beforeLastDot? : Text → Option Text
  | [] => none
  | c :: rest =>
      match beforeLastDot? rest with
      | some before => some (c :: before)
      | none => if c = '.' then some [] else none

theorem length_lt_of_beforeLastDot? {name before : Text}
    (found : beforeLastDot? name = some before) : before.length < name.length := by
  induction name generalizing before with
  | nil => simp [beforeLastDot?] at found
  | cons c rest inductionHypothesis =>
      simp only [beforeLastDot?] at found
      split at found
      · next shorter inner =>
          have bound := inductionHypothesis inner
          simp only [Option.some.injEq] at found
          subst found
          simp only [List.length_cons]
          omega
      · split at found
        · simp only [Option.some.injEq] at found
          subst found
          simp
        · simp at found

/-- The names that a name can be inside of, the nearest first: what stands before a dot, where of
two dots side by side the first one is passed over. Nothing is inside the empty name. -/
def above (name : Text) : List Text :=
  match _cut : beforeLastDot? name with
  | some (c :: before) => (c :: before) :: above (c :: before).dropLast
  | _ => []
termination_by name.length
decreasing_by
  have bound := length_lt_of_beforeLastDot? _cut
  simp only [List.length_dropLast, List.length_cons] at bound ⊢
  omega

theorem length_lt_of_mem_above {name outer : Text} (listed : outer ∈ above name) :
    outer.length < name.length := by
  induction name using above.induct with
  | case1 name c before cut inductionHypothesis =>
      rw [above] at listed
      have bound := length_lt_of_beforeLastDot? cut
      split at listed
      · next c' before' cut' =>
          rw [cut] at cut'
          simp only [Option.some.injEq, List.cons.injEq] at cut'
          obtain ⟨rfl, rfl⟩ := cut'
          rcases List.mem_cons.mp listed with same | deeper
          · exact same ▸ bound
          · have shorter := inductionHypothesis deeper
            simp only [List.length_dropLast] at shorter
            omega
      · simp at listed
  | case2 name none =>
      rw [above] at listed
      split at listed
      · next c before cut => exact absurd cut (none c before)
      · simp at listed

/-- Whether a part is another one or inside it. A part is directly inside the nearest known part
above it. -/
def isInside (known : List Text) (outer part : Text) : Bool :=
  part = outer ||
    match _nearest : (above part).find? known.contains with
    | some next => isInside known outer next
    | none => false
termination_by part.length
decreasing_by
  exact length_lt_of_mem_above (List.mem_of_find?_eq_some _nearest)

end CueWatch.Journal.Part
