import CueWatch.Text.Basic
import Mathlib.Data.List.Infix

/-!
Contract: the pieces of a text between the occurrences of a separator.

Owns:
- that no piece holds the separator, and that pieces without it are found again in the text that
  joins them;
- that joined pieces are parts of the text that joins them, what else it holds, and how it ends.

Does not own: lines, whose pieces can lose a carriage return (`Proofs.Text.Lines`).
-/

namespace CueWatch.Text

theorem notMem_of_mem_splitOn {separator : Char} {t piece : Text}
    (member : piece ∈ splitOn separator t) : separator ∉ piece := by
  induction t generalizing piece with
  | nil =>
      obtain rfl := List.mem_singleton.mp member
      exact List.not_mem_nil
  | cons c rest inductionHypothesis =>
      rw [splitOn] at member
      split at member
      next =>
        rcases List.mem_cons.mp member with rfl | later
        · exact List.not_mem_nil
        · exact inductionHypothesis later
      next other =>
        cases pieces : splitOn separator rest with
        | nil => exact absurd pieces (splitOn_ne_nil separator rest)
        | cons first more =>
            rw [pieces] at member inductionHypothesis
            rcases List.mem_cons.mp member with rfl | later
            · rw [List.mem_cons, not_or]
              exact ⟨fun same => other same.symm, inductionHypothesis List.mem_cons_self⟩
            · exact inductionHypothesis (List.mem_cons_of_mem first later)

theorem splitOn_piece {separator : Char} {piece : Text} (whole : separator ∉ piece) (rest : Text) :
    splitOn separator (piece ++ separator :: rest) = piece :: splitOn separator rest := by
  induction piece with
  | nil => simp [splitOn]
  | cons c piece inductionHypothesis =>
      rw [List.mem_cons, not_or] at whole
      rw [List.cons_append, splitOn, if_neg (Ne.symm whole.1), inductionHypothesis whole.2]
      rfl

theorem splitOn_whole {separator : Char} {piece : Text} (whole : separator ∉ piece) :
    splitOn separator piece = [piece] := by
  induction piece with
  | nil => rfl
  | cons c piece inductionHypothesis =>
      rw [List.mem_cons, not_or] at whole
      rw [splitOn, if_neg (Ne.symm whole.1), inductionHypothesis whole.2]
      rfl

/-- Pieces without the separator are found again in the text that joins them. -/
theorem splitOn_join {separator : Char} {pieces : List Text} (some : pieces ≠ [])
    (whole : ∀ piece ∈ pieces, separator ∉ piece) :
    splitOn separator (join [separator] pieces) = pieces := by
  induction pieces with
  | nil => exact absurd rfl some
  | cons piece pieces inductionHypothesis =>
      have first := whole piece List.mem_cons_self
      cases pieces with
      | nil => exact splitOn_whole first
      | cons next pieces =>
          rw [join, List.append_assoc, List.singleton_append, splitOn_piece first,
            inductionHypothesis (List.cons_ne_nil _ _) fun piece member =>
              whole piece (List.mem_cons_of_mem _ member)]

theorem isInfix_join (separator : Text) {piece : Text} {pieces : List Text}
    (member : piece ∈ pieces) : piece <:+: join separator pieces := by
  induction pieces with
  | nil => cases member
  | cons first rest inductionHypothesis =>
      cases rest with
      | nil =>
          rw [List.mem_singleton.mp member]
          exact List.infix_rfl
      | cons next rest =>
          rw [join]
          rcases List.mem_cons.mp member with rfl | later
          · rw [List.append_assoc]
            exact (List.prefix_append _ _).isInfix
          · exact (inductionHypothesis later).trans (List.suffix_append _ _).isInfix

/-- A joined text consists of its pieces and what is put between them. -/
theorem mem_of_mem_join {separator : Text} {pieces : List Text} {c : Char}
    (member : c ∈ join separator pieces) : c ∈ separator ∨ ∃ piece ∈ pieces, c ∈ piece := by
  induction pieces with
  | nil => cases member
  | cons piece pieces inductionHypothesis =>
      cases pieces with
      | nil => exact .inr ⟨piece, List.mem_cons_self, member⟩
      | cons next pieces =>
          rw [join, List.append_assoc, List.mem_append, List.mem_append] at member
          rcases member with first | between | later
          · exact .inr ⟨piece, List.mem_cons_self, first⟩
          · exact .inl between
          · refine (inductionHypothesis later).imp_right ?_
            rintro ⟨other, isPiece, within⟩
            exact ⟨other, List.mem_cons_of_mem piece isPiece, within⟩

/-- What is selected of a joined text is selected of its pieces, if nothing between them is. -/
theorem filter_join {separator : Text} {select : Char → Bool}
    (nothing : separator.filter select = []) (pieces : List Text) :
    (join separator pieces).filter select = pieces.flatMap (·.filter select) := by
  induction pieces with
  | nil => rfl
  | cons piece pieces inductionHypothesis =>
      cases pieces with
      | nil => exact (List.append_nil _).symm
      | cons next pieces =>
          rw [join, List.filter_append, List.filter_append, nothing, List.append_nil,
            inductionHypothesis, ← List.flatMap_cons]

/-- Each piece is a part of the text. -/
theorem isInfix_of_mem_splitOn {separator : Char} {t piece : Text}
    (member : piece ∈ splitOn separator t) : piece <:+: t := by
  have joined := isInfix_join [separator] member
  rwa [join_splitOn] at joined

/-- Joined pieces of which the last is not empty end as that one does. -/
theorem getLast?_join {separator : Text} {pieces : List Text} {last : Text}
    (isLast : pieces.getLast? = some last) (nonempty : last ≠ []) :
    (join separator pieces).getLast? = last.getLast? := by
  induction pieces with
  | nil => cases isLast
  | cons piece pieces inductionHypothesis =>
      cases pieces with
      | nil =>
          obtain rfl := Option.some.inj isLast
          rfl
      | cons next pieces =>
          rw [List.getLast?_cons_cons] at isLast
          have later := inductionHypothesis isLast
          have some : last.getLast? ≠ none := by simpa using nonempty
          rw [join, List.getLast?_append, later]
          cases ends : last.getLast? with
          | none => exact absurd ends some
          | some c => rfl

end CueWatch.Text
