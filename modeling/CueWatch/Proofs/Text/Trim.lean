import CueWatch.Text.Blank
import Mathlib.Data.List.DropRight

/-!
Contract: when trimming changes nothing, and what it does to an indented text.

Owns:
- `IsTight`, the texts that neither begin nor end with a blank;
- trimming of tight texts and of indented ones, and which texts are blank;
- that trimming takes nothing but blanks from the end of a text, and all of them at once.

Does not own: lines.
-/

namespace CueWatch.Text

/-- Neither the first nor the last character is a blank. -/
structure IsTight (t : Text) : Prop where
  starts : ∀ c ∈ t.head?, isBlank c = false
  ends : ∀ c ∈ t.getLast?, isBlank c = false

theorem trimStart_of_starts {t : Text} (starts : ∀ c ∈ t.head?, isBlank c = false) :
    trimStart t = t := by
  cases t with
  | nil => rfl
  | cons c rest => exact List.dropWhile_cons_of_neg (by simp [starts c rfl])

theorem trimEnd_of_ends {t : Text} (ends : ∀ c ∈ t.getLast?, isBlank c = false) :
    trimEnd t = t := by
  refine List.rdropWhile_eq_self_iff.mpr fun nonempty => ?_
  have last := ends _ (List.getLast?_eq_some_getLast nonempty)
  simp [last]

theorem trim_of_isTight {t : Text} (tight : IsTight t) : trim t = t := by
  rw [trim, trimStart_of_starts tight.starts, trimEnd_of_ends tight.ends]

theorem trim_append_of_blank {indent : Text} (blank : ∀ c ∈ indent, isBlank c = true) (t : Text) :
    trim (indent ++ t) = trim t := by
  rw [trim, trimStart, List.dropWhile_append_of_pos blank]
  rfl

theorem isBlankText_iff (t : Text) : isBlankText t = true ↔ ∀ c ∈ t, isBlank c = true := by
  rw [isBlankText, List.isEmpty_iff]
  constructor
  · intro empty c member
    have allOfRest : ∀ d ∈ t.dropWhile isBlank, isBlank d = true :=
      List.rdropWhile_eq_nil_iff.mp empty
    rw [← List.takeWhile_append_dropWhile (p := isBlank) (l := t)] at member
    rcases List.mem_append.mp member with before | after
    · exact List.mem_takeWhile_imp before
    · exact allOfRest c after
  · intro blank
    have cut := trim_append_of_blank blank []
    rwa [List.append_nil] at cut

theorem isBlankText_eq_false {t : Text} {c : Char} (member : c ∈ t) (solid : isBlank c = false) :
    isBlankText t = false := by
  rw [← Bool.not_eq_true, isBlankText_iff]
  intro blank
  have isBlank := blank c member
  simp [solid] at isBlank

/-! ### Trimming at the end -/

theorem trimEnd_append_of_blank (t : Text) {blanks : Text}
    (blank : ∀ c ∈ blanks, isBlank c = true) : trimEnd (t ++ blanks) = trimEnd t := by
  rw [trimEnd, dropEndWhile, List.reverse_append, List.dropWhile_append_of_pos]
  · rfl
  · intro c member
    exact blank c (List.mem_reverse.mp member)

/-- A text is what is left of it by trimming its end, and blanks. -/
theorem exists_blanks_after_trimEnd (t : Text) :
    ∃ blanks, t = trimEnd t ++ blanks ∧ ∀ c ∈ blanks, isBlank c = true := by
  refine ⟨(t.reverse.takeWhile isBlank).reverse, ?_, fun c member => ?_⟩
  · rw [trimEnd, dropEndWhile, ← List.reverse_append, List.takeWhile_append_dropWhile,
      List.reverse_reverse]
  · exact List.mem_takeWhile_imp (List.mem_reverse.mp member)

theorem trimEnd_trimEnd (t : Text) : trimEnd (trimEnd t) = trimEnd t :=
  List.rdropWhile_idempotent isBlank t

end CueWatch.Text
