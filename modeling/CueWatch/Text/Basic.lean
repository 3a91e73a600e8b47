/-!
Contract: text as a list of characters, and the operations on it that every other module uses.

Owns:
- `Text`, the coercion from string literals, and the way back to `String`;
- splitting at a character, cutting at the first occurrence of a character;
- the test for a contained piece of text.

Does not own: which characters are blank, what a digit is, or where lines end.
-/

namespace CueWatch

/-- Text is a list of characters, so that every law about it is a law about lists. -/
abbrev Text := List Char

instance : Coe String Text := ⟨String.toList⟩

namespace Text

def ofString (s : String) : Text := s.toList

def toString (t : Text) : String := String.ofList t

/-- Puts a character in front of the first piece; without pieces it starts one. -/
def extendHead (c : Char) : List Text → List Text
  | [] => [[c]]
  | piece :: pieces => (c :: piece) :: pieces

/-- The pieces between the occurrences of `separator`; there is always at least one piece. -/
def splitOn (separator : Char) : Text → List Text
  | [] => [[]]
  | c :: rest =>
      if c = separator then [] :: splitOn separator rest
      else extendHead c (splitOn separator rest)

/-- The text before and after the first occurrence of `separator`, if there is one. -/
def cutAt (separator : Char) : Text → Option (Text × Text)
  | [] => none
  | c :: rest =>
      if c = separator then some ([], rest)
      else (cutAt separator rest).map fun halves => (c :: halves.1, halves.2)

/-- Whether `piece` occurs in the text as a contiguous run. -/
def occurs (piece : Text) : Text → Bool
  | [] => piece.isEmpty
  | c :: rest => piece.isPrefixOf (c :: rest) || occurs piece rest

/-- The pieces with `separator` between each two neighbours. -/
def join (separator : Text) : List Text → Text
  | [] => []
  | [piece] => piece
  | piece :: next :: pieces => piece ++ separator ++ join separator (next :: pieces)

/-- The text without the longest run at its end whose characters satisfy `drop`. -/
def dropEndWhile (drop : Char → Bool) (t : Text) : Text :=
  (t.reverse.dropWhile drop).reverse

/-! ### Small laws -/

@[simp]
theorem toString_ofString (s : String) : toString (ofString s) = s :=
  String.ofList_toList

@[simp]
theorem ofString_toString (t : Text) : ofString (toString t) = t :=
  String.toList_ofList

/-- What is left after dropping from the end is the start of the text. -/
theorem dropEndWhile_isPrefix (drop : Char → Bool) (t : Text) : dropEndWhile drop t <+: t := by
  have tail := List.dropWhile_suffix (l := t.reverse) drop
  have back := List.reverse_prefix.mpr tail
  rwa [List.reverse_reverse] at back

/-- A piece occurs in a text when the text is something, the piece, and something. -/
theorem occurs_iff_isInfix (piece t : Text) : occurs piece t = true ↔ piece <:+: t := by
  induction t with
  | nil => simp [occurs]
  | cons c rest inductionHypothesis =>
      rw [occurs, Bool.or_eq_true, List.isPrefixOf_iff_prefix, inductionHypothesis,
        List.infix_cons_iff]

theorem extendHead_ne_nil (c : Char) (pieces : List Text) : extendHead c pieces ≠ [] := by
  cases pieces <;> simp [extendHead]

theorem splitOn_ne_nil (separator : Char) (t : Text) : splitOn separator t ≠ [] := by
  cases t with
  | nil => simp [splitOn]
  | cons c rest =>
      by_cases atSeparator : c = separator
      · simp [splitOn, atSeparator]
      · simp [splitOn, atSeparator, extendHead_ne_nil]

theorem join_extendHead (separator : Text) (c : Char) {pieces : List Text}
    (nonempty : pieces ≠ []) :
    join separator (extendHead c pieces) = c :: join separator pieces := by
  match pieces with
  | [] => exact absurd rfl nonempty
  | [piece] => simp [extendHead, join]
  | piece :: next :: rest => simp [extendHead, join]

/-- Splitting loses nothing: joining the pieces gives the text back. -/
theorem join_splitOn (separator : Char) (t : Text) :
    join [separator] (splitOn separator t) = t := by
  induction t with
  | nil => rfl
  | cons c rest inductionHypothesis =>
      by_cases atSeparator : c = separator
      · subst atSeparator
        have nonempty := splitOn_ne_nil c rest
        match pieces : splitOn c rest with
        | [] => exact absurd pieces nonempty
        | piece :: more =>
            rw [splitOn, if_pos rfl, pieces]
            simp only [join, List.nil_append, List.singleton_append]
            rw [← pieces, inductionHypothesis]
      · rw [splitOn, if_neg atSeparator, join_extendHead _ _ (splitOn_ne_nil _ _),
          inductionHypothesis]

end Text

end CueWatch
