import CueWatch.Panel.Findings
import CueWatch.Proofs.Text.Numeral

/-!
Contract: the spans of what the panel shows of findings are exact.

Owns:
- `Styled.cuts` and `Styled.gaps`, what the spans of a text cut out of it and what they leave;
- `Styled.IsMadeOf`, the invariant of appending: a text is made of styled pieces, each after a gap,
  and of a rest, and its spans are where the pieces lie;
- `Findings.parts` and `Findings.gapsAround`, what is to be read in the spans of findings and between
  them;
- that findings are laid out so unless one of them has a number too long to be written.

Does not own: which findings a panel shows, and from where the lines of source come.
-/

namespace CueWatch.Panel

/-- The part of a text that a span is about. -/
def Span.cut (plain : Text) (span : Span) : Text := (plain.take span.last).drop span.first

namespace Styled

/-- What the spans cut out of the text, with their styles. -/
def cuts (styled : Styled) : List (Text × Text) :=
  styled.spans.map fun span => (span.cut styled.plain, span.style)

/-- The text outside of spans, from a place on: what stands before each of them, and what is left
after the last one. -/
def gapsFrom (plain : Text) : Nat → List Span → List Text
  | start, [] => [plain.drop start]
  | start, span :: more => (plain.take span.first).drop start :: gapsFrom plain span.last more

def gaps (styled : Styled) : List Text := gapsFrom styled.plain 0 styled.spans

/-- The spans lie in the text, one after the other. -/
structure WellPlaced (styled : Styled) : Prop where
  bounded : ∀ span ∈ styled.spans, span.first ≤ span.last ∧ span.last ≤ styled.plain.length
  ordered : styled.spans.Pairwise fun earlier later => earlier.last ≤ later.first

/-! ### Texts made of pieces -/

/-- A piece of a text in a style of its own, after a text in none. -/
structure Piece where
  gap : Text
  text : Text
  style : Text

/-- The pieces written one after the other. -/
def written (pieces : List Piece) : Text := pieces.flatMap fun piece => piece.gap ++ piece.text

/-- Where pieces lie that are written from a place on. -/
def spansFrom : Nat → List Piece → List Span
  | _, [] => []
  | start, piece :: more =>
      let first := start + piece.gap.length
      let last := first + piece.text.length
      ⟨first, last, piece.style⟩ :: spansFrom last more

/-- The text is made of the pieces and a rest, and its spans are where the pieces lie. -/
structure IsMadeOf (styled : Styled) (pieces : List Piece) (rest : Text) : Prop where
  plain : styled.plain = written pieces ++ rest
  spans : styled.spans = spansFrom 0 pieces

theorem written_cons (piece : Piece) (more : List Piece) :
    written (piece :: more) = piece.gap ++ piece.text ++ written more := rfl

theorem written_append (pieces more : List Piece) :
    written (pieces ++ more) = written pieces ++ written more := List.flatMap_append

theorem spansFrom_append (start : Nat) (pieces more : List Piece) :
    spansFrom start (pieces ++ more) =
      spansFrom start pieces ++ spansFrom (start + (written pieces).length) more := by
  induction pieces generalizing start with
  | nil => rfl
  | cons piece pieces inductionHypothesis =>
      rw [List.cons_append, spansFrom, inductionHypothesis, spansFrom, written_cons]
      simp only [List.cons_append, List.length_append, Nat.add_assoc]

/-- The spans of pieces lie in what is written of them. -/
theorem bounds_of_mem_spansFrom {start : Nat} {pieces : List Piece} {span : Span}
    (member : span ∈ spansFrom start pieces) :
    start ≤ span.first ∧ span.first ≤ span.last ∧
      span.last ≤ start + (written pieces).length := by
  induction pieces generalizing start with
  | nil => cases member
  | cons piece more inductionHypothesis =>
      rw [written_cons]
      simp only [List.length_append]
      rcases List.mem_cons.mp member with rfl | later
      · exact ⟨by dsimp only; omega, by dsimp only; omega, by dsimp only; omega⟩
      · obtain ⟨fromEnd, inOrder, within⟩ := inductionHypothesis later
        exact ⟨by omega, inOrder, by omega⟩

theorem pairwise_spansFrom (start : Nat) (pieces : List Piece) :
    (spansFrom start pieces).Pairwise fun earlier later => earlier.last ≤ later.first := by
  induction pieces generalizing start with
  | nil => exact .nil
  | cons piece more inductionHypothesis =>
      exact .cons (fun _ later => (bounds_of_mem_spansFrom later).1) (inductionHypothesis _)

/-- The part of a text between two of its places. -/
theorem take_drop_between (before middle after : Text) :
    ((before ++ middle ++ after).take (before.length + middle.length)).drop before.length =
      middle := by
  rw [← List.length_append, List.take_left, List.drop_left]

/-- Pieces that are written after some text are cut out of it again. The induction moves a piece
after the other over to that text. -/
theorem map_cut_spansFrom (before : Text) (pieces : List Piece) (rest : Text) :
    (spansFrom before.length pieces).map
        (fun span => (span.cut (before ++ written pieces ++ rest), span.style)) =
      pieces.map fun piece => (piece.text, piece.style) := by
  induction pieces generalizing before with
  | nil => rfl
  | cons piece more inductionHypothesis =>
      have moved : before ++ written (piece :: more) ++ rest =
          before ++ piece.gap ++ piece.text ++ (written more ++ rest) := by
        simp only [written_cons, List.append_assoc]
      have tail := inductionHypothesis (before ++ piece.gap ++ piece.text)
      rw [List.append_assoc _ (written more), ← moved, List.length_append, List.length_append]
        at tail
      rw [spansFrom, List.map_cons, tail, List.map_cons, Span.cut, moved, ← List.length_append,
        take_drop_between]

theorem gapsFrom_spansFrom (before : Text) (pieces : List Piece) (rest : Text) :
    gapsFrom (before ++ written pieces ++ rest) before.length (spansFrom before.length pieces) =
      pieces.map Piece.gap ++ [rest] := by
  induction pieces generalizing before with
  | nil => simp [spansFrom, gapsFrom, written]
  | cons piece more inductionHypothesis =>
      have moved : before ++ written (piece :: more) ++ rest =
          before ++ piece.gap ++ piece.text ++ (written more ++ rest) := by
        simp only [written_cons, List.append_assoc]
      have tail := inductionHypothesis (before ++ piece.gap ++ piece.text)
      rw [List.append_assoc _ (written more), ← moved, List.length_append, List.length_append]
        at tail
      rw [spansFrom, gapsFrom, tail, List.map_cons, List.cons_append, moved, List.append_assoc _ _,
        take_drop_between]

section

variable {styled : Styled} {pieces : List Piece} {rest : Text}

theorem IsMadeOf.wellPlaced (made : IsMadeOf styled pieces rest) : WellPlaced styled where
  bounded := by
    intro span member
    rw [made.spans] at member
    obtain ⟨-, inOrder, within⟩ := bounds_of_mem_spansFrom member
    rw [made.plain, List.length_append]
    exact ⟨inOrder, by omega⟩
  ordered := made.spans ▸ pairwise_spansFrom 0 pieces

theorem IsMadeOf.cuts_eq (made : IsMadeOf styled pieces rest) :
    styled.cuts = pieces.map fun piece => (piece.text, piece.style) := by
  rw [cuts, made.spans, made.plain]
  exact map_cut_spansFrom [] pieces rest

theorem IsMadeOf.gaps_eq (made : IsMadeOf styled pieces rest) :
    styled.gaps = pieces.map Piece.gap ++ [rest] := by
  rw [gaps, made.spans, made.plain]
  exact gapsFrom_spansFrom [] pieces rest

theorem isMadeOf_empty : IsMadeOf .empty [] [] := ⟨rfl, rfl⟩

/-- Text without a style lengthens the rest. -/
theorem IsMadeOf.append_plain (made : IsMadeOf styled pieces rest) (t : Text) :
    IsMadeOf (styled.append t []) pieces (rest ++ Text.withoutControls t) where
  plain := by
    rw [append, made.plain, List.append_assoc]
  spans := by
    rw [append, List.isEmpty_nil, Bool.or_true, if_pos rfl, made.spans]

/-- Text in a style is one more piece, and the rest was the gap before it. -/
theorem IsMadeOf.append_styled (made : IsMadeOf styled pieces rest) {t style : Text}
    (nonempty : t ≠ []) (styles : style ≠ []) :
    IsMadeOf (styled.append t style) (pieces ++ [⟨rest, Text.withoutControls t, style⟩]) [] where
  plain := by
    rw [append, made.plain, written_append]
    simp [written]
  spans := by
    have adds : (t.isEmpty || style.isEmpty) = false := by
      rw [List.isEmpty_eq_false_iff.mpr nonempty, List.isEmpty_eq_false_iff.mpr styles]
      rfl
    rw [append, adds, if_neg (by decide), made.spans, made.plain, spansFrom_append]
    simp [spansFrom]

theorem append_nil (style : Text) : styled.append [] style = styled := by
  simp [append, Text.withoutControls]

end

end Styled

namespace Findings

open Styled

/-! ### What is to be read in the spans and between them -/

/-- The text without the control characters 7, 8, 11, 12 and 13. -/
def cleared (t : Text) : Text := t.filter fun c => c.toNat ∉ [0x07, 0x08, 0x0B, 0x0C, 0x0D]

/-- The line of source that a finding is about, without blanks at its end, if there is one. -/
def sourceLine? (sourceLines : List Text) (diagnostic : Diagnostic) : Option Text :=
  if 0 ≤ diagnostic.line ∧ diagnostic.line < sourceLines.length then
    sourceLines[diagnostic.line.toNat]?.map Text.trimEnd
  else none

/-- That line if anything is left of it. -/
def quotedLine? (sourceLines : List Text) (diagnostic : Diagnostic) : Option Text :=
  (sourceLine? sourceLines diagnostic).filter (· ≠ [])

def location (diagnostic : Diagnostic) : Text :=
  diagnostic.file ++ ":" ++ Text.signedDecimal (diagnostic.line + 1) ++ ":" ++
    Text.signedDecimal diagnostic.column

/-- What a finding shows in styles of their own: its location, its message, and its line of
source. -/
def parts (sourceLines : List Text) (diagnostic : Diagnostic) : List (Text × Text) :=
  let message : Text := if diagnostic.message = [] then "(no message)" else diagnostic.message
  (cleared (location diagnostic), "bold #9FBFC5") :: (cleared message, "#a80000") ::
    (quotedLine? sourceLines diagnostic).toList.map fun line => (cleared line, "dim")

/-- What stands between the parts of one finding. -/
def gapsWithin (sourceLines : List Text) (diagnostic : Diagnostic) : List Text :=
  "  " :: (quotedLine? sourceLines diagnostic).toList.map fun _ => "\n    "

/-- What stands after the parts of a finding: a line of source that is empty is led up to. -/
def gapAfter (sourceLines : List Text) (diagnostic : Diagnostic) : Text :=
  if sourceLine? sourceLines diagnostic = some [] then "\n    " else []

/-- What stands around the parts of more findings, the text since the last part being given. -/
def gapsAround (sourceLines : List Text) (rest : Text) : List Diagnostic → List Text
  | [] => [rest]
  | diagnostic :: more =>
      (rest ++ "\n") :: gapsWithin sourceLines diagnostic ++
        gapsAround sourceLines (gapAfter sourceLines diagnostic) more

/-- Whether a number can be written: it has at most as many digits as the limit. -/
def Writable (number : Int) : Prop := number.natAbs < 10 ^ Failure.digitLimit

/-- What becomes of findings, of which there is a first one. Either all numbers in their locations
can be written, and then the text is cut into exactly their parts; or one cannot be, and nothing is
shown. -/
inductive Rendered (first : Diagnostic) (more : List Diagnostic) (sourceLines : List Text) :
    Except Failure Styled → Prop
  | laidOut {styled : Styled}
      (writable : ∀ diagnostic ∈ first :: more,
        Writable (diagnostic.line + 1) ∧ Writable diagnostic.column)
      (placed : WellPlaced styled)
      (cuts : styled.cuts = (first :: more).flatMap (parts sourceLines))
      (gaps : styled.gaps =
        [] :: gapsWithin sourceLines first ++
          gapsAround sourceLines (gapAfter sourceLines first) more) :
      Rendered first more sourceLines (.ok styled)
  | refused {diagnostic : Diagnostic} (member : diagnostic ∈ first :: more)
      (unwritable : ¬ (Writable (diagnostic.line + 1) ∧ Writable diagnostic.column)) :
      Rendered first more sourceLines (.error .unwritableNumber)

/-! ### Appending findings -/

theorem withoutControls_eq_cleared (t : Text) : Text.withoutControls t = cleared t := by
  rw [Text.withoutControls, cleared]
  refine List.filter_congr fun c _ => ?_
  rw [Bool.eq_iff_iff]
  simp [Text.isHiddenControl, and_assoc]

/-- The line of source that is appended is the one of the specification. -/
theorem excerpt?_eq_sourceLine? (sourceLines : List Text) (diagnostic : Diagnostic) :
    excerpt? sourceLines diagnostic = sourceLine? sourceLines diagnostic := by
  rw [excerpt?, sourceLine?]
  by_cases negative : diagnostic.line < 0
  · rw [if_pos negative, if_neg fun inside => absurd inside.1 (Int.not_le.mpr negative)]
  · rw [if_neg negative]
    split
    · rfl
    · rename_i outside
      rw [List.getElem?_eq_none (by omega), Option.map_none]

/-- The pieces of a finding after a gap. -/
def pieces (sourceLines : List Text) (gap : Text) (diagnostic : Diagnostic) : List Piece :=
  List.zipWith (fun gap part => ⟨gap, part.1, part.2⟩)
    (gap :: gapsWithin sourceLines diagnostic) (parts sourceLines diagnostic)

/-- The pieces of more findings, the text since the last piece being given. -/
def morePieces (sourceLines : List Text) (rest : Text) : List Diagnostic → List Piece
  | [] => []
  | diagnostic :: more =>
      pieces sourceLines (rest ++ "\n") diagnostic ++
        morePieces sourceLines (gapAfter sourceLines diagnostic) more

/-- The text since the last piece after more findings. -/
def restAfter (sourceLines : List Text) (rest : Text) : List Diagnostic → Text
  | [] => rest
  | diagnostic :: more => restAfter sourceLines (gapAfter sourceLines diagnostic) more

section

variable {sourceLines : List Text} {styled : Styled} {before : List Piece} {rest : Text}

theorem location_ne_nil (diagnostic : Diagnostic) : location diagnostic ≠ [] := by
  simp [location]

theorem message_ne_nil (diagnostic : Diagnostic) : message diagnostic ≠ [] := by
  rw [message]
  split
  next => decide
  next given => exact fun empty => given (List.isEmpty_iff.mpr empty)

theorem message_eq (diagnostic : Diagnostic) :
    message diagnostic =
      if diagnostic.message = [] then ("(no message)" : Text) else diagnostic.message := by
  rw [message]
  simp only [List.isEmpty_iff]

/-- One more finding adds its pieces; the cases are those of its line of source. -/
theorem isMadeOf_appendFinding (made : IsMadeOf styled before rest) (diagnostic : Diagnostic) :
    IsMadeOf (appendFinding sourceLines styled diagnostic)
      (before ++ pieces sourceLines rest diagnostic) (gapAfter sourceLines diagnostic) := by
  have placed := made.append_styled (location_ne_nil diagnostic)
    (show placeStyle ≠ [] by decide)
  have told := (placed.append_plain "  ").append_styled (message_ne_nil diagnostic)
    (show messageStyle ≠ [] by decide)
  rw [withoutControls_eq_cleared, withoutControls_eq_cleared (message diagnostic), message_eq,
    List.append_assoc, List.nil_append, show Text.withoutControls "  " = "  " by decide] at told
  rw [appendFinding, excerpt?_eq_sourceLine?, message_eq, pieces, gapsWithin, parts, quotedLine?,
    gapAfter]
  cases sourceLine? sourceLines diagnostic with
  | none => exact told
  | some line =>
      have led := told.append_plain "\n    "
      rw [List.nil_append, show Text.withoutControls "\n    " = "\n    " by decide] at led
      cases line with
      | nil =>
          dsimp only
          rw [append_nil]
          exact led
      | cons c line =>
          have quoted := led.append_styled (List.cons_ne_nil c line)
            (show excerptStyle ≠ [] by decide)
          rw [withoutControls_eq_cleared (c :: line), List.append_assoc] at quoted
          exact quoted

/-- More findings add their pieces, by induction on them. -/
theorem isMadeOf_appendMore (made : IsMadeOf styled before rest) (more : List Diagnostic) :
    IsMadeOf (appendMore sourceLines styled more) (before ++ morePieces sourceLines rest more)
      (restAfter sourceLines rest more) := by
  induction more generalizing styled before rest with
  | nil =>
      rw [morePieces, List.append_nil]
      exact made
  | cons diagnostic more inductionHypothesis =>
      have apart := made.append_plain "\n"
      rw [show Text.withoutControls "\n" = "\n" by decide] at apart
      rw [morePieces, ← List.append_assoc]
      exact inductionHypothesis (isMadeOf_appendFinding apart diagnostic)

theorem isMadeOf_render (first : Diagnostic) (more : List Diagnostic) :
    IsMadeOf (render (first :: more) sourceLines)
      (pieces sourceLines [] first ++ morePieces sourceLines (gapAfter sourceLines first) more)
      (restAfter sourceLines (gapAfter sourceLines first) more) :=
  isMadeOf_appendMore (isMadeOf_appendFinding isMadeOf_empty first) more

end

/-! ### The pieces of findings -/

section

variable (sourceLines : List Text)

theorem map_part_pieces (gap : Text) (diagnostic : Diagnostic) :
    (pieces sourceLines gap diagnostic).map (fun piece => (piece.text, piece.style)) =
      parts sourceLines diagnostic := by
  rw [pieces, gapsWithin, parts]
  cases quotedLine? sourceLines diagnostic <;> rfl

theorem map_gap_pieces (gap : Text) (diagnostic : Diagnostic) :
    (pieces sourceLines gap diagnostic).map Piece.gap =
      gap :: gapsWithin sourceLines diagnostic := by
  rw [pieces, gapsWithin, parts]
  cases quotedLine? sourceLines diagnostic <;> rfl

theorem map_part_morePieces (rest : Text) (more : List Diagnostic) :
    (morePieces sourceLines rest more).map (fun piece => (piece.text, piece.style)) =
      more.flatMap (parts sourceLines) := by
  induction more generalizing rest with
  | nil => rfl
  | cons diagnostic more inductionHypothesis =>
      rw [morePieces, List.map_append, map_part_pieces, inductionHypothesis, List.flatMap_cons]

theorem map_gap_morePieces (rest : Text) (more : List Diagnostic) :
    (morePieces sourceLines rest more).map Piece.gap ++ [restAfter sourceLines rest more] =
      gapsAround sourceLines rest more := by
  induction more generalizing rest with
  | nil => rfl
  | cons diagnostic more inductionHypothesis =>
      rw [morePieces, List.map_append, map_gap_pieces, List.append_assoc, restAfter,
        inductionHypothesis, gapsAround]

theorem cuts_render (first : Diagnostic) (more : List Diagnostic) :
    (render (first :: more) sourceLines).cuts =
      (first :: more).flatMap (parts sourceLines) := by
  rw [(isMadeOf_render first more).cuts_eq, List.map_append, map_part_pieces, map_part_morePieces,
    List.flatMap_cons]

theorem gaps_render (first : Diagnostic) (more : List Diagnostic) :
    (render (first :: more) sourceLines).gaps =
      [] :: gapsWithin sourceLines first ++
        gapsAround sourceLines (gapAfter sourceLines first) more := by
  rw [(isMadeOf_render first more).gaps_eq, List.map_append, map_gap_pieces, List.append_assoc,
    map_gap_morePieces]

end

/-! ### Findings from anywhere -/

theorem isWritable_iff (number : Int) : isWritable number = true ↔ Writable number := by
  rw [isWritable, decide_eq_true_iff, Writable]
  constructor
  · intro short
    have bound := Text.numeralValue_lt (Text.decimal number.natAbs)
    rw [Text.numeralValue_decimal] at bound
    exact Nat.lt_of_lt_of_le bound (Nat.pow_le_pow_right (by decide) short)
  · exact Text.length_decimal_le (by decide)

theorem isPlaceable_iff (diagnostic : Diagnostic) :
    isPlaceable diagnostic = true ↔
      Writable (diagnostic.line + 1) ∧ Writable diagnostic.column := by
  rw [isPlaceable, Bool.and_eq_true, isWritable_iff, isWritable_iff]

/-- Findings whose numbers can be written are laid out exactly; others are not shown at all. -/
theorem findings_laid_out (first : Diagnostic) (more : List Diagnostic)
    (sourceLines : List Text) :
    Rendered first more sourceLines (shown (first :: more) sourceLines) := by
  rw [shown]
  split
  next placeable =>
    refine .laidOut (fun diagnostic member => ?_) (isMadeOf_render first more).wellPlaced
      (cuts_render sourceLines first more) (gaps_render sourceLines first more)
    exact (isPlaceable_iff diagnostic).mp (List.all_eq_true.mp placeable diagnostic member)
  next unplaceable =>
    obtain ⟨diagnostic, member, unplaced⟩ :=
      List.all_eq_false.mp (Bool.not_eq_true _ ▸ unplaceable)
    exact .refused member fun writable => unplaced ((isPlaceable_iff diagnostic).mpr writable)

/-- A finding on a line whose number, counted from one, has one digit too many. -/
def overlongFinding : Diagnostic :=
  ⟨Int.ofNat (10 ^ Failure.digitLimit - 1), 1, [], "m", "f"⟩

theorem overlong_finding_is_refused :
    shown [overlongFinding] [] = .error .unwritableNumber := by
  have tooLong : ¬ Writable (overlongFinding.line + 1) := by
    have positive : 0 < 10 ^ Failure.digitLimit := Nat.pow_pos (by decide)
    rw [overlongFinding, Writable]
    generalize 10 ^ Failure.digitLimit = limit at positive ⊢
    have fromOne : Int.ofNat (limit - 1) + 1 = Int.ofNat limit :=
      congrArg Int.ofNat (Nat.sub_add_cancel positive)
    rw [fromOne]
    exact Nat.lt_irrefl limit
  have unplaced : isPlaceable overlongFinding = false :=
    Bool.eq_false_iff.mpr fun placed => tooLong ((isPlaceable_iff _).mp placed).1
  rw [shown, List.all_cons, unplaced, Bool.false_and]
  rfl

end Findings

end CueWatch.Panel
