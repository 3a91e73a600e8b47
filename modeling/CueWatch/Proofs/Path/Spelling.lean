import CueWatch.Path.Spelling
import CueWatch.Proofs.Text.Lines

/-!
Contract: written paths that are in normal form.

Owns:
- `Pathname.IsTidy`, the path names whose parts say something and hold no slash; what is read is
  tidy;
- that a tidy path name is written without slashes at its end;
- the name that a written path ends with, and what is written behind a path.

Does not own: what stands at a path (`Proofs.Host.Files`).
-/

namespace CueWatch

/-! ### Slashes at the end -/

theorem Spelling.withoutEndSlashes_of_slashes {path : Text} (slashes : ∀ c ∈ path, c = '/') :
    Spelling.withoutEndSlashes path = path := by
  have each : ∀ c ∈ path.reverse, (c == '/') = true := by
    intro c member
    rw [slashes c (List.mem_reverse.mp member)]
    rfl
  have dropped : (path.reverse ++ []).dropWhile (· == '/') = [] :=
    List.dropWhile_append_of_pos each
  have nothing : Text.dropEndWhile (· == '/') path = [] := by
    rw [Text.dropEndWhile, ← List.append_nil path.reverse, dropped]
    rfl
  rw [Spelling.withoutEndSlashes, nothing]
  rfl

theorem Text.dropEndWhile_of_getLast? {drop : Char → Bool} {t : Text} {c : Char}
    (ends : t.getLast? = some c) (kept : drop c = false) : Text.dropEndWhile drop t = t := by
  rw [← List.head?_reverse] at ends
  obtain ⟨rest, reversed⟩ := List.head?_eq_some_iff.mp ends
  rw [Text.dropEndWhile, reversed, List.dropWhile_cons_of_neg (by simpa using kept), ← reversed,
    List.reverse_reverse]

theorem Spelling.withoutEndSlashes_of_getLast? {path : Text} {c : Char}
    (ends : path.getLast? = some c) (solid : c ≠ '/') : Spelling.withoutEndSlashes path = path := by
  have kept : Text.dropEndWhile (· == '/') path = path :=
    Text.dropEndWhile_of_getLast? ends (by simpa using solid)
  have nonempty : path.isEmpty = false := by
    rw [List.isEmpty_eq_false_iff]
    rintro rfl
    cases ends
  rw [Spelling.withoutEndSlashes, kept, nonempty]
  rfl

/-- A relative path is written behind one that does not end with a slash, with a slash between
them. -/
theorem Spelling.append_of_getLast? {base path : Text} {c : Char} (ends : base.getLast? = some c)
    (solid : c ≠ '/') (relative : Spelling.isAbsolute path = false) :
    Spelling.append base path = base ++ '/' :: path := by
  have nonempty : base.isEmpty = false := by
    rw [List.isEmpty_eq_false_iff]
    rintro rfl
    cases ends
  have unended : Spelling.endsWithSlash base = false := by
    rw [Spelling.endsWithSlash, ends]
    simpa using solid
  rw [Spelling.append, relative, nonempty, unended]
  rfl

/-- A path ends with the name that is written after its last slash. -/
theorem Spelling.name_append (base : Text) {name : Text} (single : '/' ∉ name) :
    Spelling.name (base ++ '/' :: name) = name := by
  have named : ∀ c ∈ name.reverse, decide (c ≠ '/') = true := by
    intro c member
    rw [decide_eq_true_eq]
    rintro rfl
    exact single (List.mem_reverse.mp member)
  have reversed : (base ++ '/' :: name).reverse = name.reverse ++ '/' :: base.reverse := by simp
  rw [Spelling.name, reversed, List.takeWhile_append_of_pos named,
    List.takeWhile_cons_of_neg (by decide), List.append_nil, List.reverse_reverse]

namespace Pathname

/-- A path name as it is read: at most two slashes at its root, and parts that say something and
hold none. -/
structure IsTidy (path : Pathname) : Prop where
  root : path.root = [] ∨ path.root = ['/'] ∨ path.root = ['/', '/']
  parts : ∀ part ∈ path.parts, isIdle part = false ∧ '/' ∉ part

theorem isTidy_ofText (path : Text) : IsTidy (ofText path) where
  root := by
    simp only [ofText, Spelling.root]
    split
    · exact .inl rfl
    · exact .inr (.inr rfl)
    · exact .inr (.inl rfl)
  parts := by
    intro part member
    obtain ⟨piece, busy⟩ := List.mem_filter.mp member
    exact ⟨by simpa using busy, Text.notMem_of_mem_splitOn piece⟩

theorem IsTidy.child {path : Pathname} (tidy : IsTidy path) {name : Text}
    (isName : isIdle name = false ∧ '/' ∉ name) : IsTidy (path.child name) where
  root := tidy.root
  parts := by
    intro part member
    rcases List.mem_append.mp member with earlier | last
    · exact tidy.parts part earlier
    · rwa [List.mem_singleton.mp last]

theorem ne_nil_of_busy {part : Text} (busy : isIdle part = false) : part ≠ [] := by
  rintro rfl
  cases busy

/-- A tidy path name is written without slashes at its end, unless it is the root. -/
theorem IsTidy.withoutEndSlashes {path : Pathname} (tidy : IsTidy path) :
    Spelling.withoutEndSlashes path.text = path.text := by
  rw [text]
  split
  next => rfl
  next =>
    cases isLast : path.parts.getLast? with
    | none =>
        rw [List.getLast?_eq_none_iff.mp isLast, Text.join, List.append_nil]
        refine Spelling.withoutEndSlashes_of_slashes fun c member => ?_
        rcases tidy.root with root | root | root <;> rw [root] at member
        · cases member
        · simpa using member
        · simpa using member
    | some last =>
        obtain ⟨busy, noSlash⟩ := tidy.parts last (List.mem_of_getLast? isLast)
        have nonempty := ne_nil_of_busy busy
        obtain ⟨c, ends⟩ : ∃ c, last.getLast? = some c :=
          Option.isSome_iff_exists.mp (by simpa using nonempty)
        have solid : c ≠ '/' := by
          rintro rfl
          exact noSlash (List.mem_of_getLast? ends)
        refine Spelling.withoutEndSlashes_of_getLast? ?_ solid
        rw [List.getLast?_append, Text.getLast?_join isLast nonempty, ends]
        rfl

end Pathname

end CueWatch
