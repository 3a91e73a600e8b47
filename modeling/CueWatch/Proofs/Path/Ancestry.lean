import CueWatch.Host.Files
import CueWatch.Proofs.Path.Normal

/-!
Contract: which paths from the root are above which, told by their components.

Owns:
- `Pathname.IsCanonical`, the path names that spellings without links are texts of;
- that path names are read back from their texts;
- that cutting off the last name of such a text leads to the parent, and how written components
  end;
- `Pathname.IsAtOrAbove`, the order by components, and what is above a path in terms of its parent.

Does not own: what stands at a path.
-/

namespace CueWatch

/-! ### Ends of texts -/

namespace Text

theorem dropEndWhile_append_of_pos {drop : Char → Bool} {t dropped : Text}
    (each : ∀ c ∈ dropped, drop c = true) :
    dropEndWhile drop (t ++ dropped) = dropEndWhile drop t := by
  have reversed : ∀ c ∈ dropped.reverse, drop c = true :=
    fun c member => each c (List.mem_reverse.mp member)
  rw [dropEndWhile, List.reverse_append, List.dropWhile_append_of_pos reversed, dropEndWhile]

theorem join_concat (separator : Text) {pieces : List Text} (nonempty : pieces ≠ []) (last : Text) :
    join separator (pieces ++ [last]) = join separator pieces ++ separator ++ last := by
  induction pieces with
  | nil => exact absurd rfl nonempty
  | cons piece pieces inductionHypothesis =>
      cases pieces with
      | nil => rfl
      | cons next pieces =>
          have later := inductionHypothesis (List.cons_ne_nil _ _)
          simp only [List.cons_append, join] at later ⊢
          rw [later]
          simp only [List.append_assoc]

end Text

/-! ### Written directories -/

namespace Spelling

/-- Before a last name stands what it is written after, without the slashes between them. -/
theorem directory_append (base : Text) {name : Text} (single : '/' ∉ name) :
    directory (base ++ '/' :: name) =
      if base.all (· == '/') then base ++ ['/'] else Text.dropEndWhile (· == '/') base := by
  have named : ∀ c ∈ name, decide (c ≠ '/') = true := by
    intro c member
    rw [decide_eq_true_eq]
    rintro rfl
    exact single member
  have head : Text.dropEndWhile (fun c => decide (c ≠ '/')) (base ++ '/' :: name) =
      base ++ ['/'] := by
    rw [List.append_cons, Text.dropEndWhile_append_of_pos named]
    exact Text.dropEndWhile_of_getLast? List.getLast?_concat (by decide)
  have slash : ∀ c ∈ ['/'], (c == '/') = true := by
    intro c member
    rw [List.mem_singleton.mp member]
    rfl
  rw [directory, head, Text.dropEndWhile_append_of_pos slash]
  simp

/-- Components that say something are written with a character at their end that is no slash. -/
theorem getLast?_join_of_solid {components : List Text} (nonempty : components ≠ [])
    (solid : ∀ c ∈ components, c ≠ [] ∧ '/' ∉ c) :
    ∃ c, (Text.join ['/'] components).getLast? = some c ∧ c ≠ '/' := by
  obtain ⟨last, isLast⟩ : ∃ last, components.getLast? = some last :=
    Option.isSome_iff_exists.mp (by simpa using nonempty)
  obtain ⟨lastNonempty, single⟩ := solid last (List.mem_of_getLast? isLast)
  obtain ⟨c, ends⟩ : ∃ c, last.getLast? = some c :=
    Option.isSome_iff_exists.mp (by simpa using lastNonempty)
  refine ⟨c, (Text.getLast?_join isLast lastNonempty).trans ends, ?_⟩
  rintro rfl
  exact single (List.mem_of_getLast? ends)

/-- A path of components, as it is written, without the last one of them. -/
theorem directory_concat {start : Text} (isStart : start = [] ∨ IsRoot start)
    {components : List Text} (solid : ∀ c ∈ components, c ≠ [] ∧ '/' ∉ c) {last : Text}
    (single : '/' ∉ last) :
    directory (start ++ Text.join ['/'] (components ++ [last])) =
      start ++ Text.join ['/'] components := by
  by_cases none : components = []
  · rw [none]
    rcases isStart with rfl | rfl | rfl
    · have nothing : Text.dropEndWhile (fun c => decide (c ≠ '/')) ([] ++ last) = [] := by
        rw [Text.dropEndWhile_append_of_pos]
        · rfl
        · intro c member
          rw [decide_eq_true_eq]
          rintro rfl
          exact single member
      show directory ([] ++ last) = []
      rw [directory, nothing]
      rfl
    · exact directory_append [] single
    · exact directory_append ['/'] single
  · obtain ⟨c, ends, other⟩ := getLast?_join_of_solid none solid
    have wholeEnds : (start ++ Text.join ['/'] components).getLast? = some c := by
      rw [List.getLast?_append, ends]
      rfl
    have notSlashes : ¬ (start ++ Text.join ['/'] components).all (· == '/') = true := by
      intro slashes
      have slash := List.all_eq_true.mp slashes c (List.mem_of_getLast? wholeEnds)
      exact other (by simpa using slash)
    have written : start ++ Text.join ['/'] (components ++ [last]) =
        (start ++ Text.join ['/'] components) ++ '/' :: last := by
      rw [Text.join_concat _ none]
      simp only [List.append_assoc, List.singleton_append]
    rw [written, directory_append _ single, if_neg notSlashes]
    exact Text.dropEndWhile_of_getLast? wholeEnds (by simpa using other)

end Spelling

namespace Pathname

/-! ### Canonical path names -/

/-- A path name from the root whose parts all name entries. -/
structure IsCanonical (path : Pathname) : Prop where
  root : Spelling.IsRoot path.root
  parts : ∀ part ∈ path.parts, Spelling.IsPlain part

theorem IsCanonical.text {path : Pathname} (canonical : IsCanonical path) :
    path.text = path.root ++ Text.join ['/'] path.parts := by
  have rooted : path.root.isEmpty = false := by
    rcases canonical.root with same | same <;> rw [same] <;> rfl
  rw [Pathname.text, rooted, Bool.false_and, if_neg Bool.false_ne_true]

theorem IsCanonical.isTidy {path : Pathname} (canonical : IsCanonical path) : IsTidy path where
  root := .inr canonical.root
  parts := by
    intro part member
    have plain := canonical.parts part member
    exact ⟨by simpa using plain.busy, plain.single⟩

/-- A path name that says something is read back from its text. -/
theorem IsTidy.ofText_text {path : Pathname} (tidy : IsTidy path)
    (speaks : (path.root.isEmpty && path.parts.isEmpty) = false) : ofText path.text = path := by
  have busy : path.parts.filter (fun part => !isIdle part) = path.parts := by
    rw [List.filter_eq_self]
    intro part member
    rw [(tidy.parts part member).1]
    rfl
  have pieces : (Text.splitOn '/' (Text.join ['/'] path.parts)).filter
      (fun part => !isIdle part) = path.parts := by
    by_cases none : path.parts = []
    · rw [none]
      rfl
    · rw [Text.splitOn_join none fun part member => (tidy.parts part member).2, busy]
  have split : (Text.splitOn '/' (path.root ++ Text.join ['/'] path.parts)).filter
      (fun part => !isIdle part) = path.parts := by
    rcases tidy.root with same | same | same <;> rw [same] <;> exact pieces
  have root : Spelling.root (path.root ++ Text.join ['/'] path.parts) = path.root :=
    Spelling.root_append tidy.root (Spelling.head?_join_ne_slash fun part member =>
      ⟨ne_nil_of_busy (tidy.parts part member).1, (tidy.parts part member).2⟩)
  rw [text, speaks, if_neg Bool.false_ne_true, ofText, root, split]

theorem IsCanonical.ofText_text {path : Pathname} (canonical : IsCanonical path) :
    ofText path.text = path := by
  refine canonical.isTidy.ofText_text ?_
  rcases canonical.root with same | same <;> rw [same] <;> rfl

theorem IsCanonical.text_inj {path other : Pathname} (canonical : IsCanonical path)
    (otherCanonical : IsCanonical other) (same : path.text = other.text) : path = other := by
  rw [← canonical.ofText_text, same, otherCanonical.ofText_text]

/-- A normal form from the root is the text of a canonical path name. -/
theorem exists_canonical_normal {path : Text} (rooted : Spelling.isAbsolute path = true) :
    ∃ name, IsCanonical name ∧ Spelling.normal path = name.text := by
  obtain ⟨start, components, isRoot, plain, written⟩ := Spelling.exists_normal rooted
  have canonical : IsCanonical ⟨start, components⟩ := ⟨isRoot, plain⟩
  exact ⟨⟨start, components⟩, canonical, written.trans canonical.text.symm⟩

theorem IsCanonical.parent {path : Pathname} (canonical : IsCanonical path) :
    IsCanonical path.parent :=
  ⟨canonical.root, fun part member => canonical.parts part (List.dropLast_subset _ member)⟩

/-- The directory of a canonical path, as written, is its parent. -/
theorem IsCanonical.directory_text {path : Pathname} (canonical : IsCanonical path) :
    Spelling.directory path.text = path.parent.text := by
  rw [canonical.parent.text, canonical.text, Pathname.parent]
  rcases List.eq_nil_or_concat path.parts with none | ⟨upper, last, parts⟩
  · -- The root is its own directory, with one slash as with two.
    rw [none]
    rcases canonical.root with same | same <;> rw [same] <;> rfl
  · rw [List.concat_eq_append] at parts
    have plain := canonical.parts
    rw [parts] at plain ⊢
    rw [List.dropLast_concat]
    refine Spelling.directory_concat (.inr canonical.root) ?_ (plain last (by simp)).single
    exact fun part member => (plain part (List.mem_append_left _ member)).solid

end Pathname

/-- The spelling of a path without links is that of a canonical path name. -/
theorem Host.exists_canonical {path resolved : Text} {host : Host}
    (found : host.canonical path = .ok resolved) :
    ∃ name : Pathname, name.IsCanonical ∧ resolved = name.text := by
  unfold canonical at found
  split at found
  next => cases found
  next written _ =>
    obtain ⟨absolute, rooted, rfl⟩ := exists_of_absolute found
    exact Pathname.exists_canonical_normal rooted

/-! ### At or above -/

namespace Pathname

/-- A path name is another one or an ancestor of it: it has the same root, and its parts are the
first parts of the other one. -/
def IsAtOrAbove (upper lower : Pathname) : Prop :=
  upper.root = lower.root ∧ upper.parts <+: lower.parts

instance (upper lower : Pathname) : Decidable (IsAtOrAbove upper lower) :=
  inferInstanceAs (Decidable (_ ∧ _))

namespace IsAtOrAbove

theorem refl (path : Pathname) : IsAtOrAbove path path := ⟨rfl, List.prefix_rfl⟩

theorem trans {upper middle lower : Pathname} (first : IsAtOrAbove upper middle)
    (second : IsAtOrAbove middle lower) : IsAtOrAbove upper lower :=
  ⟨first.1.trans second.1, first.2.trans second.2⟩

theorem antisymm {path other : Pathname} (first : IsAtOrAbove path other)
    (second : IsAtOrAbove other path) : path = other := by
  have parts : path.parts = other.parts :=
    first.2.eq_of_length (Nat.le_antisymm first.2.length_le second.2.length_le)
  cases path
  cases other
  exact congrArg₂ Pathname.mk first.1 parts

end IsAtOrAbove

theorem parent_isAtOrAbove (path : Pathname) : IsAtOrAbove path.parent path :=
  ⟨rfl, List.dropLast_prefix path.parts⟩

/-- Only the root is at or above the root. -/
theorem IsAtOrAbove.eq_of_parts_nil {upper lower : Pathname} (above : IsAtOrAbove upper lower)
    (top : lower.parts = []) : upper = lower := by
  refine above.antisymm ⟨above.1.symm, ?_⟩
  rw [top]
  exact List.nil_prefix

/-- What is at or above a path is the path itself or at or above its parent. -/
theorem isAtOrAbove_iff {upper lower : Pathname} :
    IsAtOrAbove upper lower ↔ upper = lower ∨ IsAtOrAbove upper lower.parent := by
  constructor
  · intro above
    rcases List.eq_nil_or_concat lower.parts with top | ⟨parts, last, written⟩
    · exact .inl (above.eq_of_parts_nil top)
    · obtain ⟨root, below⟩ := above
      rw [List.concat_eq_append] at written
      rw [written, List.prefix_concat_iff] at below
      rcases below with whole | shorter
      · refine .inl (IsAtOrAbove.antisymm ⟨root, ?_⟩ ⟨root.symm, ?_⟩)
        · rw [written, whole]
        · rw [written, whole]
      · refine .inr ⟨root, ?_⟩
        rw [parent, written, List.dropLast_concat]
        exact shorter
  · rintro (rfl | above)
    · exact IsAtOrAbove.refl upper
    · exact above.trans (parent_isAtOrAbove lower)

theorem parent_of_parts_nil {path : Pathname} (top : path.parts = []) : path.parent = path := by
  cases path
  cases top
  rfl

theorem parent_ne {path : Pathname} (below : path.parts ≠ []) : path.parent ≠ path := by
  intro same
  have lengths := congrArg (fun path : Pathname => path.parts.length) same
  have positive := List.length_pos_iff.mpr below
  simp only [parent, List.length_dropLast] at lengths
  omega

/-- Induction from the root down. -/
@[elab_as_elim]
theorem parent_induction {motive : Pathname → Prop}
    (top : ∀ path, path.parts = [] → motive path)
    (below : ∀ path, path.parts ≠ [] → motive path.parent → motive path) (path : Pathname) :
    motive path := by
  induction hlength : path.parts.length generalizing path with
  | zero => exact top path (List.length_eq_zero_iff.mp hlength)
  | succ length inductionHypothesis =>
      have nonempty : path.parts ≠ [] := by
        intro none
        rw [none] at hlength
        cases hlength
      refine below path nonempty (inductionHypothesis path.parent ?_)
      rw [parent, List.length_dropLast, hlength]
      rfl

end Pathname

end CueWatch
