import CueWatch.Proofs.Text.Lines
import CueWatch.Proofs.Text.Trim
import Mathlib.Data.List.Basic

/-!
Contract: the lines of source that are shown, compared with the lines that reports count.

Owns:
- `finelyCut`, the lines that reports count, each cut again at the line breaks that reports do not
  count; these are the lines of source, but for an empty one at the end;
- `Undisturbed`, the lines of a text of which the right piece is found by the number that reports
  give.

Does not own: what is shown of a line (`Proofs.Panel.Excerpt`).
-/

namespace CueWatch.Text

/-- The lines that reports count, each cut at the line breaks in it. -/
def finelyCut (raw : Text) : List Text :=
  (reportLines raw).flatMap (List.splitOnP isLineBreak)

/-- Lines without an empty one at the end. -/
def withoutLastEmpty (lines : List Text) : List Text :=
  if lines.getLast? = some [] then lines.dropLast else lines

/-- No line before the one of this number holds a line break that reports do not count, and that
line holds none before the blanks at its end. -/
structure Undisturbed (raw : Text) (number : Nat) : Prop where
  before : ∀ line ∈ (reportLines raw).take number, ∀ c ∈ line, isLineBreak c = false
  within : ∀ line, (reportLines raw)[number]? = some line →
    ∀ c ∈ trimEnd line, isLineBreak c = false

/-! ### The lines of source -/

theorem return_notMem_universalNewlines (raw : Text) : '\r' ∉ universalNewlines raw := by
  fun_induction universalNewlines raw with
  | case1 => exact List.not_mem_nil
  | case2 => decide
  | case3 c ordinary => simpa using Ne.symm ordinary
  | case4 rest inductionHypothesis => simpa using inductionHypothesis
  | case5 d rest _ inductionHypothesis => simpa using inductionHypothesis
  | case6 c d rest ordinary inductionHypothesis =>
      rw [List.mem_cons, not_or]
      exact ⟨Ne.symm ordinary, inductionHypothesis⟩

theorem withoutLastEmpty_cons (line : Text) {lines : List Text} (more : lines ≠ []) :
    withoutLastEmpty (line :: lines) = line :: withoutLastEmpty lines := by
  obtain ⟨next, rest, rfl⟩ := List.exists_cons_of_ne_nil more
  simp only [withoutLastEmpty, List.getLast?_cons_cons, List.dropLast_cons_cons]
  split <;> rfl

theorem modifyHead_cons_eq_extendHead (c : Char) {pieces : List Text} (nonempty : pieces ≠ []) :
    pieces.modifyHead (List.cons c) = extendHead c pieces := by
  obtain ⟨piece, rest, rfl⟩ := List.exists_cons_of_ne_nil nonempty
  rfl

theorem splitOnP_cons_break {c : Char} (breaks : isLineBreak c = true) (t : Text) :
    (c :: t).splitOnP isLineBreak = [] :: t.splitOnP isLineBreak := by
  rw [List.splitOnP_cons_eq_if_modifyHead, if_pos breaks]

theorem splitOnP_cons_ordinary {c : Char} (ordinary : isLineBreak c = false) (t : Text) :
    (c :: t).splitOnP isLineBreak = extendHead c (t.splitOnP isLineBreak) := by
  rw [List.splitOnP_cons_eq_if_modifyHead, if_neg (by simp [ordinary]),
    modifyHead_cons_eq_extendHead c (List.splitOnP_ne_nil _ _)]

/-- A character in front of the first of some lines keeps that line from being dropped. -/
theorem withoutLastEmpty_extendHead (c : Char) {lines : List Text} (nonempty : lines ≠ []) :
    withoutLastEmpty (extendHead c lines) = extendHead c (withoutLastEmpty lines) := by
  obtain ⟨line, rest, rfl⟩ := List.exists_cons_of_ne_nil nonempty
  cases rest with
  | nil => cases line <;> rfl
  | cons next rest =>
      change withoutLastEmpty ((c :: line) :: next :: rest) = _
      rw [withoutLastEmpty_cons _ (List.cons_ne_nil _ _),
        withoutLastEmpty_cons _ (List.cons_ne_nil _ _)]
      rfl

/-- Without carriage returns the lines of source are the pieces between line breaks. -/
theorem sourceLines_eq_withoutLastEmpty {t : Text} (noReturn : '\r' ∉ t) :
    sourceLines t = withoutLastEmpty (t.splitOnP isLineBreak) := by
  fun_induction sourceLines t with
  | case1 => rfl
  | case2 c breaks =>
      rw [splitOnP_cons_break breaks]
      rfl
  | case3 c ordinary =>
      rw [splitOnP_cons_ordinary (Bool.not_eq_true _ ▸ ordinary)]
      rfl
  | case4 c d rest both _ =>
      obtain ⟨rfl, -⟩ : c = '\r' ∧ d = '\n' := by simpa using both
      exact absurd List.mem_cons_self noReturn
  | case5 c d rest _ breaks inductionHypothesis =>
      rw [splitOnP_cons_break breaks, withoutLastEmpty_cons _ (List.splitOnP_ne_nil _ _),
        inductionHypothesis fun member => noReturn (List.mem_cons_of_mem c member)]
  | case6 c d rest _ ordinary inductionHypothesis =>
      rw [splitOnP_cons_ordinary (Bool.not_eq_true _ ▸ ordinary),
        withoutLastEmpty_extendHead c (List.splitOnP_ne_nil _ _),
        inductionHypothesis fun member => noReturn (List.mem_cons_of_mem c member)]

theorem flatMap_extendHead_ordinary {c : Char} (ordinary : isLineBreak c = false)
    {lines : List Text} (nonempty : lines ≠ []) :
    (extendHead c lines).flatMap (List.splitOnP isLineBreak) =
      extendHead c (lines.flatMap (List.splitOnP isLineBreak)) := by
  obtain ⟨line, rest, rfl⟩ := List.exists_cons_of_ne_nil nonempty
  change ((c :: line) :: rest).flatMap _ = _
  rw [List.flatMap_cons, List.flatMap_cons, splitOnP_cons_ordinary ordinary,
    extendHead_append c (List.splitOnP_ne_nil _ _)]

theorem flatMap_extendHead_break {c : Char} (breaks : isLineBreak c = true)
    {lines : List Text} (nonempty : lines ≠ []) :
    (extendHead c lines).flatMap (List.splitOnP isLineBreak) =
      [] :: lines.flatMap (List.splitOnP isLineBreak) := by
  obtain ⟨line, rest, rfl⟩ := List.exists_cons_of_ne_nil nonempty
  change ((c :: line) :: rest).flatMap _ = _
  rw [List.flatMap_cons, List.flatMap_cons, splitOnP_cons_break breaks, List.cons_append]

/-- A text that is read from a file is cut at its line breaks into the lines that reports count,
cut again. The induction is along the lines that reports count. -/
theorem splitOnP_universalNewlines (raw : Text) :
    (universalNewlines raw).splitOnP isLineBreak = finelyCut raw := by
  have newline (t : Text) : ('\n' :: t).splitOnP isLineBreak = [] :: t.splitOnP isLineBreak :=
    splitOnP_cons_break (by decide) t
  unfold finelyCut
  fun_induction reportLines raw with
  | case1 => rfl
  | case2 => rfl
  | case3 c ordinary =>
      by_cases isReturn : c = '\r'
      · subst isReturn
        rfl
      · rw [universalNewlines, if_neg isReturn, List.flatMap_singleton]
  | case4 c d rest both inductionHypothesis =>
      obtain ⟨rfl, rfl⟩ : c = '\r' ∧ d = '\n' := by simpa using both
      rw [universalNewlines, if_pos rfl, if_pos rfl, newline, inductionHypothesis]
      rfl
  | case5 d rest _ inductionHypothesis =>
      rw [universalNewlines, if_neg (by decide), newline, inductionHypothesis]
      rfl
  | case6 c d rest notBoth ordinary inductionHypothesis =>
      by_cases isReturn : c = '\r'
      · subst isReturn
        have alone : d ≠ '\n' := fun isNewline => notBoth (by simp [isNewline])
        rw [universalNewlines, if_pos rfl, if_neg alone, newline, inductionHypothesis,
          flatMap_extendHead_break (by decide) (reportLines_ne_nil _)]
      · rw [universalNewlines, if_neg isReturn]
        cases breaks : isLineBreak c with
        | true =>
            rw [splitOnP_cons_break breaks, inductionHypothesis,
              flatMap_extendHead_break breaks (reportLines_ne_nil _)]
        | false =>
            rw [splitOnP_cons_ordinary breaks, inductionHypothesis,
              flatMap_extendHead_ordinary breaks (reportLines_ne_nil _)]

/-- The lines of source of a text that is read from a file. -/
theorem sourceLines_universalNewlines (raw : Text) :
    sourceLines (universalNewlines raw) = withoutLastEmpty (finelyCut raw) := by
  rw [sourceLines_eq_withoutLastEmpty (return_notMem_universalNewlines raw),
    splitOnP_universalNewlines]

/-! ### The line of a number -/

theorem head?_splitOnP (line : Text) :
    (line.splitOnP isLineBreak).head? = some (line.takeWhile fun c => !isLineBreak c) := by
  induction line with
  | nil => rfl
  | cons c line inductionHypothesis =>
      cases breaks : isLineBreak c with
      | true => rw [splitOnP_cons_break breaks, List.takeWhile_cons_of_neg (by simp [breaks])]; rfl
      | false =>
          obtain ⟨first, rest, pieces⟩ :=
            List.exists_cons_of_ne_nil (List.splitOnP_ne_nil isLineBreak line)
          rw [pieces, List.head?_cons, Option.some_inj] at inductionHypothesis
          rw [splitOnP_cons_ordinary breaks, pieces,
            List.takeWhile_cons_of_pos (by simp [breaks]), ← inductionHypothesis]
          rfl

/-- While the lines before are not cut, the line of a number begins with the piece of that
number. -/
theorem getElem?_flatMap_splitOnP {lines : List Text} {number : Nat}
    (before : ∀ line ∈ lines.take number, ∀ c ∈ line, isLineBreak c = false) :
    (lines.flatMap (List.splitOnP isLineBreak))[number]? =
      lines[number]?.map fun line => line.takeWhile fun c => !isLineBreak c := by
  induction number generalizing lines with
  | zero =>
      cases lines with
      | nil => rfl
      | cons line rest =>
          obtain ⟨first, others, pieces⟩ :=
            List.exists_cons_of_ne_nil (List.splitOnP_ne_nil isLineBreak line)
          have head := head?_splitOnP line
          rw [pieces, List.head?_cons] at head
          rw [List.flatMap_cons, pieces, List.getElem?_cons_zero, Option.map_some, ← head]
          rfl
  | succ number inductionHypothesis =>
      cases lines with
      | nil => rfl
      | cons line rest =>
          rw [List.take_succ_cons, List.forall_mem_cons] at before
          rw [List.flatMap_cons, List.splitOnP_eq_singleton before.1, List.singleton_append,
            List.getElem?_cons_succ, List.getElem?_cons_succ, inductionHypothesis before.2]

/-! ### Blanks at the end of a line -/

/-- A line break among the blanks at the end of a line takes nothing away. -/
theorem trimEnd_takeWhile_of_whole {line : Text}
    (whole : ∀ c ∈ trimEnd line, isLineBreak c = false) :
    trimEnd (line.takeWhile fun c => !isLineBreak c) = trimEnd line := by
  obtain ⟨blanks, parts, blank⟩ := exists_blanks_after_trimEnd line
  have taken : line.takeWhile (fun c => !isLineBreak c) =
      trimEnd line ++ blanks.takeWhile fun c => !isLineBreak c := by
    conv_lhs => rw [parts]
    exact List.takeWhile_append_of_pos fun c member => by rw [whole c member]; rfl
  rw [taken, trimEnd_append_of_blank _ fun c member => blank c (List.takeWhile_subset _ member),
    trimEnd_trimEnd]

/-- In an undisturbed line the piece of its number is the line, but for blanks at the end. -/
theorem getElem?_finelyCut_of_undisturbed {raw : Text} {number : Nat}
    (undisturbed : Undisturbed raw number) :
    (finelyCut raw)[number]?.map trimEnd = (reportLines raw)[number]?.map trimEnd := by
  rw [finelyCut, getElem?_flatMap_splitOnP undisturbed.before]
  cases found : (reportLines raw)[number]? with
  | none => rfl
  | some line => exact congrArg some (trimEnd_takeWhile_of_whole (undisturbed.within line found))

end CueWatch.Text
