import CueWatch.Proofs.Text.Pieces
import CueWatch.Text.Blank
import CueWatch.Text.Lines

/-!
Contract: the lines of a report, said without reading the report character by character.

Owns:
- `unended`, the lines as the pieces between newlines, each but the last without the carriage return
  that belongs to the newline after it, and its agreement with `reportLines`;
- `LineEnd`, the two ways to end a line, and what `reportLines` makes of a line that is ended in
  either way;
- that the lines of two reports with a newline between them are those of the first and the second;
- that a text without carriage returns keeps its line ends when it is read from a file.

Does not own: what the lines mean (`Proofs.Diagnostic`).
-/

namespace CueWatch.Text

/-! ### Lines as pieces between newlines -/

/-- A piece without one carriage return at its end. -/
def withoutReturn (piece : Text) : Text :=
  if ['\r'] <:+ piece then piece.dropLast else piece

/-- Pieces of which every one but the last was followed by a newline, as lines. -/
def unended (pieces : List Text) : List Text :=
  pieces.dropLast.map withoutReturn ++ pieces.getLast?.toList

theorem unended_singleton (piece : Text) : unended [piece] = [piece] := rfl

theorem unended_cons (piece : Text) {pieces : List Text} (more : pieces ≠ []) :
    unended (piece :: pieces) = withoutReturn piece :: unended pieces := by
  obtain ⟨next, rest, rfl⟩ := List.exists_cons_of_ne_nil more
  simp [unended]

theorem withoutReturn_cons (c d : Char) (piece : Text) :
    withoutReturn (c :: d :: piece) = c :: withoutReturn (d :: piece) := by
  have same : ['\r'] <:+ c :: d :: piece ↔ ['\r'] <:+ d :: piece := by
    rw [List.suffix_cons_iff]
    simp
  by_cases returns : ['\r'] <:+ d :: piece
  · rw [withoutReturn, if_pos (same.mpr returns), withoutReturn, if_pos returns,
      List.dropLast_cons_of_ne_nil (List.cons_ne_nil d piece)]
  · rw [withoutReturn, if_neg (mt same.mp returns), withoutReturn, if_neg returns]

theorem withoutReturn_singleton {c : Char} (ordinary : c ≠ '\r') : withoutReturn [c] = [c] := by
  rw [withoutReturn, if_neg]
  intro returns
  have same := returns.eq_of_length rfl
  exact ordinary (List.cons.inj same).1.symm

/-- A character in front goes into the first line, unless it is a carriage return and the first
line is empty and ended. -/
theorem unended_extendHead {c : Char} {pieces : List Text} (nonempty : pieces ≠ [])
    (kept : c = '\r' → pieces.head? ≠ some []) :
    unended (extendHead c pieces) = extendHead c (unended pieces) := by
  obtain ⟨piece, rest, rfl⟩ := List.exists_cons_of_ne_nil nonempty
  change unended ((c :: piece) :: rest) = _
  by_cases alone : rest = []
  · subst alone
    rfl
  · rw [unended_cons _ alone, unended_cons _ alone]
    change _ = (c :: withoutReturn piece) :: unended rest
    cases piece with
    | nil =>
        have ordinary : c ≠ '\r' := fun isReturn => kept isReturn rfl
        rw [withoutReturn_singleton ordinary]
        rfl
    | cons d piece => rw [withoutReturn_cons]

theorem head?_splitOn_cons {separator d : Char} (rest : Text) (different : d ≠ separator) :
    (splitOn separator (d :: rest)).head? ≠ some [] := by
  rw [splitOn, if_neg different]
  cases splitOn separator rest <;> simp [extendHead]

/-- The lines of a report are the pieces between its newlines, where a carriage return directly
before a newline belongs to the newline. -/
theorem reportLines_eq_unended (report : Text) :
    reportLines report = unended (splitOn '\n' report) := by
  fun_induction reportLines report with
  | case1 => rfl
  | case2 => rfl
  | case3 c ordinary => simp [splitOn, ordinary, extendHead, unended]
  | case4 c d rest both inductionHypothesis =>
      obtain ⟨rfl, rfl⟩ : c = '\r' ∧ d = '\n' := by simpa using both
      have pieces : splitOn '\n' ('\r' :: '\n' :: rest) = ['\r'] :: splitOn '\n' rest := rfl
      rw [pieces, unended_cons _ (splitOn_ne_nil _ _), inductionHypothesis]
      rfl
  | case5 d rest _ inductionHypothesis =>
      have pieces : splitOn '\n' ('\n' :: d :: rest) = [] :: splitOn '\n' (d :: rest) := rfl
      rw [pieces, unended_cons _ (splitOn_ne_nil _ _), inductionHypothesis]
      rfl
  | case6 c d rest notBoth ordinary inductionHypothesis =>
      rw [inductionHypothesis]
      conv_rhs => rw [splitOn, if_neg ordinary]
      refine (unended_extendHead (splitOn_ne_nil _ _) fun isReturn => ?_).symm
      exact head?_splitOn_cons rest fun isNewline => notBoth (by simp [isReturn, isNewline])

/-! ### Lines that are ended -/

/-- The two ways to end a line. -/
inductive LineEnd where
  | newline
  | returnNewline
deriving DecidableEq, Repr

/-- The characters that end a line. -/
def LineEnd.text : LineEnd → Text
  | .newline => ['\n']
  | .returnNewline => ['\r', '\n']

theorem withoutReturn_of_not_suffix {piece : Text} (kept : ¬ ['\r'] <:+ piece) :
    withoutReturn piece = piece := if_neg kept

theorem withoutReturn_append (piece : Text) : withoutReturn (piece ++ ['\r']) = piece := by
  rw [withoutReturn, if_pos (List.suffix_append piece ['\r']), List.dropLast_concat]

theorem withoutReturn_subset (piece : Text) : withoutReturn piece ⊆ piece := by
  unfold withoutReturn
  split
  · exact List.dropLast_subset piece
  · exact List.Subset.refl piece

theorem reportLines_piece {piece : Text} (one : '\n' ∉ piece) (rest : Text) :
    reportLines (piece ++ '\n' :: rest) = withoutReturn piece :: reportLines rest := by
  rw [reportLines_eq_unended, splitOn_piece one, unended_cons _ (splitOn_ne_nil _ _),
    reportLines_eq_unended]

theorem reportLines_whole {piece : Text} (one : '\n' ∉ piece) : reportLines piece = [piece] := by
  rw [reportLines_eq_unended, splitOn_whole one, unended_singleton]

theorem reportLines_returned {line : Text} (one : '\n' ∉ line) (rest : Text) :
    reportLines (line ++ '\r' :: '\n' :: rest) = line :: reportLines rest := by
  have stillOne : '\n' ∉ line ++ ['\r'] := by simpa using one
  have piece := reportLines_piece stillOne rest
  rwa [withoutReturn_append, List.append_assoc] at piece

/-- A line that is ended in either way is read as it was written, unless it ends with a carriage
return itself. -/
theorem reportLines_ended {line : Text} (one : '\n' ∉ line) (kept : ¬ ['\r'] <:+ line)
    (lineEnd : LineEnd) (rest : Text) :
    reportLines (line ++ lineEnd.text ++ rest) = line :: reportLines rest := by
  rw [List.append_assoc]
  cases lineEnd with
  | newline =>
      change reportLines (line ++ '\n' :: rest) = _
      rw [reportLines_piece one, withoutReturn_of_not_suffix kept]
  | returnNewline => exact reportLines_returned one rest

/-- Of any line that is ended in either way, no other characters than its own are read. -/
theorem exists_reportLines_ended {line : Text} (one : '\n' ∉ line) (lineEnd : LineEnd)
    (rest : Text) :
    ∃ read ⊆ line, reportLines (line ++ lineEnd.text ++ rest) = read :: reportLines rest := by
  rw [List.append_assoc]
  cases lineEnd with
  | newline => exact ⟨withoutReturn line, withoutReturn_subset line, reportLines_piece one rest⟩
  | returnNewline => exact ⟨line, List.Subset.refl line, reportLines_returned one rest⟩

/-! ### Reports that are put together -/

theorem extendHead_append (c : Char) {pieces : List Text} (nonempty : pieces ≠ [])
    (more : List Text) : extendHead c (pieces ++ more) = extendHead c pieces ++ more := by
  obtain ⟨piece, rest, rfl⟩ := List.exists_cons_of_ne_nil nonempty
  rfl

theorem reportLines_ne_nil (t : Text) : reportLines t ≠ [] := by
  rw [reportLines_eq_unended, unended]
  simp [splitOn_ne_nil]

/-- A newline between two reports ends the last line of the first one, if this line does not end
with a carriage return: that would belong to the newline. -/
theorem reportLines_append {t : Text} (kept : ¬ ['\r'] <:+ t) (rest : Text) :
    reportLines (t ++ '\n' :: rest) = reportLines t ++ reportLines rest := by
  have emptyIsOne : '\n' ∉ ([] : Text) := List.not_mem_nil
  have newline (more : Text) : reportLines ('\n' :: more) = [] :: reportLines more :=
    reportLines_piece emptyIsOne more
  fun_induction reportLines t with
  | case1 => exact newline rest
  | case2 =>
      rw [List.singleton_append, newline, newline]
      rfl
  | case3 c ordinary =>
      have one : '\n' ∉ [c] := by simpa using Ne.symm ordinary
      rw [reportLines_piece one, withoutReturn_of_not_suffix kept]
      rfl
  | case4 c d t both inductionHypothesis =>
      have keptBelow : ¬ ['\r'] <:+ t := fun ends => kept (ends.trans (List.suffix_append [c, d] t))
      rw [List.cons_append, List.cons_append, reportLines, if_pos both,
        inductionHypothesis keptBelow]
      rfl
  | case5 d t _ inductionHypothesis =>
      have keptBelow : ¬ ['\r'] <:+ d :: t := fun ends => kept (ends.trans (List.suffix_cons _ _))
      rw [List.cons_append, newline, inductionHypothesis keptBelow]
      rfl
  | case6 c d t notBoth ordinary inductionHypothesis =>
      have keptBelow : ¬ ['\r'] <:+ d :: t := fun ends => kept (ends.trans (List.suffix_cons _ _))
      rw [List.cons_append, List.cons_append, reportLines, if_neg notBoth, if_neg ordinary,
        ← List.cons_append, inductionHypothesis keptBelow,
        extendHead_append c (reportLines_ne_nil _)]
/-! ### Line ends -/

/-- A text without carriage returns keeps its line ends. -/
theorem universalNewlines_eq_self {t : Text} (noReturn : '\r' ∉ t) : universalNewlines t = t := by
  fun_induction universalNewlines t with
  | case1 => rfl
  | case2 => exact absurd List.mem_cons_self noReturn
  | case3 c ordinary => rfl
  | case4 => exact absurd List.mem_cons_self noReturn
  | case5 => exact absurd List.mem_cons_self noReturn
  | case6 c d rest ordinary inductionHypothesis =>
      rw [inductionHypothesis fun member => noReturn (List.mem_cons_of_mem c member)]

end CueWatch.Text
