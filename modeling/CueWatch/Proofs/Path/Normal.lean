import CueWatch.Host.Basic
import CueWatch.Proofs.Path.Spelling

/-!
Contract: the normal form of a path from the root.

Owns:
- `IsPlain`, the components that a normal form from the root consists of, and how it is written;
- that such a form is its own normal form, so that an absolute path that was found once stays the
  same wherever it is looked up.

Does not own: normal forms of relative paths, which keep `..` at their start.
-/

namespace CueWatch

namespace Spelling

/-- A component that names an entry: it says something, does not lead up, and is no longer path. -/
structure IsPlain (component : Text) : Prop where
  nonempty : component ≠ []
  notHere : component ≠ ['.']
  notUp : component ≠ ['.', '.']
  single : '/' ∉ component

theorem isAbsolute_of_notMem {path : Text} (single : '/' ∉ path) : isAbsolute path = false :=
  beq_eq_false_iff_ne.mpr fun slash => single (List.mem_of_mem_head? slash)

theorem IsPlain.isAbsolute {component : Text} (plain : IsPlain component) :
    isAbsolute component = false :=
  isAbsolute_of_notMem plain.single

theorem IsPlain.busy {component : Text} (plain : IsPlain component) :
    ¬ Pathname.isIdle component = true := by
  simp [Pathname.isIdle, plain.nonempty, plain.notHere]

theorem IsPlain.solid {component : Text} (plain : IsPlain component) :
    component ≠ [] ∧ '/' ∉ component :=
  ⟨plain.nonempty, plain.single⟩

/-- Plain components are added as they are. -/
theorem foldl_resolveComponent {components : List Text} (plain : ∀ c ∈ components, IsPlain c)
    (rooted : Bool) (resolved : List Text) :
    components.foldl (resolveComponent rooted) resolved = components.reverse ++ resolved := by
  induction components generalizing resolved with
  | nil => rfl
  | cons component components inductionHypothesis =>
      have first := plain component List.mem_cons_self
      have added : resolveComponent rooted resolved component = component :: resolved := by
        simp [resolveComponent, first.nonempty, first.notHere, first.notUp]
      rw [List.foldl_cons, added, inductionHypothesis fun c member =>
        plain c (List.mem_cons_of_mem _ member)]
      simp

/-- From the root no component leads up. -/
theorem plain_resolveComponent {resolved : List Text} {component : Text}
    (plain : ∀ c ∈ resolved, IsPlain c) (single : '/' ∉ component) :
    ∀ c ∈ resolveComponent true resolved component, IsPlain c := by
  unfold resolveComponent
  split
  next => exact plain
  next busy =>
    have busy : component ≠ [] ∧ component ≠ ['.'] := by simpa using busy
    split
    next notUp =>
      intro c member
      rcases List.mem_cons.mp member with rfl | earlier
      · exact ⟨busy.1, busy.2, notUp, single⟩
      · exact plain c earlier
    next =>
      -- `..` takes the last component away, and is dropped at the root.
      cases resolved with
      | nil =>
          rintro c ⟨⟩
      | cons last earlier =>
          rw [List.forall_mem_cons] at plain
          dsimp only
          rw [if_neg plain.1.notUp]
          exact plain.2

theorem plain_foldl_resolveComponent {pieces resolved : List Text}
    (plain : ∀ c ∈ resolved, IsPlain c) (single : ∀ piece ∈ pieces, '/' ∉ piece) :
    ∀ c ∈ pieces.foldl (resolveComponent true) resolved, IsPlain c := by
  induction pieces generalizing resolved with
  | nil => exact plain
  | cons piece pieces inductionHypothesis =>
      rw [List.forall_mem_cons] at single
      exact inductionHypothesis (plain_resolveComponent plain single.1) single.2

/-- The slashes that stand for the root. -/
def IsRoot (start : Text) : Prop := start = ['/'] ∨ start = ['/', '/']

theorem isRoot_root {path : Text} (rooted : isAbsolute path = true) : IsRoot (root path) := by
  obtain ⟨rest, rfl⟩ : ∃ rest, path = '/' :: rest := by
    cases path with
    | nil => cases rooted
    | cons c rest =>
        have slash : c = '/' := by simpa [isAbsolute] using rooted
        exact ⟨rest, by rw [slash]⟩
  unfold root
  split
  next none => simp at none
  next => exact .inr rfl
  next => exact .inl rfl

/-- The normal form of a path from the root, told by its components. -/
theorem normal_of_isRoot {path : Text} {components : List Text} (isRoot : IsRoot (root path))
    (resolved :
      (Text.splitOn '/' path).foldl (resolveComponent true) [] = components.reverse) :
    normal path = root path ++ Text.join ['/'] components := by
  have nonempty : root path ≠ [] := by
    rcases isRoot with same | same <;> rw [same] <;> exact List.cons_ne_nil _ _
  have written : root path ++ Text.join ['/'] components ≠ [] :=
    List.append_ne_nil_of_left_ne_nil nonempty _
  have busy : (!(root path).isEmpty) = true := by simpa using nonempty
  unfold normal
  simp only [busy, resolved, List.reverse_reverse]
  rw [if_neg (by simpa using written)]

/-- The normal form of a path from the root is written with plain components. -/
theorem exists_normal {path : Text} (rooted : isAbsolute path = true) :
    ∃ start components, IsRoot start ∧ (∀ c ∈ components, IsPlain c) ∧
      normal path = start ++ Text.join ['/'] components := by
  let resolved := (Text.splitOn '/' path).foldl (resolveComponent true) []
  refine ⟨root path, resolved.reverse, isRoot_root rooted, fun c member => ?_, ?_⟩
  · have plain : ∀ c ∈ resolved, IsPlain c :=
      plain_foldl_resolveComponent (by rintro c ⟨⟩) fun piece => Text.notMem_of_mem_splitOn
    exact plain c (List.mem_reverse.mp member)
  · exact normal_of_isRoot (isRoot_root rooted) (List.reverse_reverse resolved).symm

theorem head?_join_ne_slash {components : List Text}
    (solid : ∀ c ∈ components, c ≠ [] ∧ '/' ∉ c) :
    (Text.join ['/'] components).head? ≠ some '/' := by
  cases components with
  | nil => rintro ⟨⟩
  | cons component components =>
      obtain ⟨nonempty, noSlash⟩ := solid component List.mem_cons_self
      cases component with
      | nil => exact absurd rfl nonempty
      | cons c rest =>
          have other : c ≠ '/' := by
            rintro rfl
            exact noSlash List.mem_cons_self
          cases components <;> simpa [Text.join] using other

theorem isAbsolute_join {components : List Text} (solid : ∀ c ∈ components, c ≠ [] ∧ '/' ∉ c) :
    isAbsolute (Text.join ['/'] components) = false :=
  beq_eq_false_iff_ne.mpr (head?_join_ne_slash solid)

theorem root_append {start rest : Text} (isRoot : start = [] ∨ IsRoot start)
    (solid : rest.head? ≠ some '/') : root (start ++ rest) = start := by
  have none : rest.takeWhile (· == '/') = [] := by
    cases rest with
    | nil => rfl
    | cons c rest =>
        have other : c ≠ '/' := by simpa using solid
        rw [List.takeWhile_cons_of_neg (by simpa using other)]
  rcases isRoot with rfl | rfl | rfl <;> simp [root, none]

/-- A normal form from the root is its own normal form. -/
theorem normal_of_plain {start : Text} {components : List Text} (isRoot : IsRoot start)
    (plain : ∀ c ∈ components, IsPlain c) :
    normal (start ++ Text.join ['/'] components) = start ++ Text.join ['/'] components := by
  have same : root (start ++ Text.join ['/'] components) = start :=
    root_append (.inr isRoot)
      (head?_join_ne_slash fun c member => (plain c member).solid)
  have again : (Text.splitOn '/' (Text.join ['/'] components)).foldl (resolveComponent true) [] =
      components.reverse := by
    by_cases none : components = []
    · rw [none]
      rfl
    · rw [Text.splitOn_join none fun c member => (plain c member).single,
        foldl_resolveComponent plain, List.append_nil]
  have resolved : (Text.splitOn '/' (start ++ Text.join ['/'] components)).foldl
      (resolveComponent true) [] = components.reverse := by
    rcases isRoot with rfl | rfl <;> exact again
  have normal := normal_of_isRoot (by rwa [same]) resolved
  rwa [same] at normal

theorem normal_normal {path : Text} (rooted : isAbsolute path = true) :
    normal (normal path) = normal path := by
  obtain ⟨start, components, isRoot, plain, written⟩ := exists_normal rooted
  rw [written, normal_of_plain isRoot plain]

theorem isAbsolute_normal {path : Text} (rooted : isAbsolute path = true) :
    isAbsolute (normal path) = true := by
  obtain ⟨start, components, isRoot, plain, written⟩ := exists_normal rooted
  rw [written]
  rcases isRoot with rfl | rfl <;> rfl

theorem isAbsolute_append {base : Text} (rooted : isAbsolute base = true) (path : Text) :
    isAbsolute (append base path) = true := by
  cases base with
  | nil => cases rooted
  | cons c rest =>
      unfold append
      split
      next absolute => exact absolute
      next => split <;> exact rooted

end Spelling

/-- An absolute path is the normal form of a path from the root. -/
theorem Host.exists_of_absolute {path file : Text} {host : Host}
    (located : host.absolute path = .ok file) :
    ∃ written, Spelling.isAbsolute written = true ∧ file = Spelling.normal written := by
  unfold absolute at located
  split at located
  next rooted => exact ⟨path, rooted, (Except.ok.inj located).symm⟩
  next =>
    cases working : host.workingText with
    | error failure =>
        rw [working] at located
        cases located
    | ok directory =>
        rw [working] at located
        have isText : Spelling.isAbsolute directory = true := by
          unfold workingText at working
          cases spot : host.workingPath with
          | error failure =>
              rw [spot] at working
              cases working
          | ok place =>
              rw [spot] at working
              obtain rfl := Except.ok.inj working
              rfl
        exact ⟨Spelling.append directory path, Spelling.isAbsolute_append isText path,
          (Except.ok.inj located).symm⟩

/-- An absolute path that was found once stays the same wherever it is looked up. -/
theorem Host.absolute_of_absolute {path file : Text} {host : Host}
    (located : host.absolute path = .ok file) (other : Host) : other.absolute file = .ok file := by
  obtain ⟨written, rooted, rfl⟩ := exists_of_absolute located
  rw [absolute, if_pos (Spelling.isAbsolute_normal rooted), Spelling.normal_normal rooted]

end CueWatch
