import CueWatch.Proofs.FileTree.Sound
import CueWatch.Proofs.Path.Ancestry

/-!
Contract: the directory that a walk comes through before its last step.

Owns:
- `ToDirectory`, the outcomes of walks that end at a directory of the tree;
- that a walk by some components and one more comes through a directory, and that the written
  directory of a path leads there;
- that a path which has led to a free place leads there while the tree only grows elsewhere.

Does not own: what is found one step further (`Proofs.FileTree.Sound`).
-/

namespace CueWatch.FileTree

/-- A walk has ended at a directory of the tree. -/
def ToDirectory (tree : FileTree) (outcome : Except SystemError Place) : Prop :=
  ∃ place, outcome = .ok (.taken (Spot.at place)) ∧ tree.get? place = some .directory

/-- The last step of a walk: a plain name, or nothing after a directory of the tree. -/
inductive IsLast : Text → Place → Prop
  | name {name : Text} {place : Place} (plain : Spelling.IsPlain name) : IsLast name place
  | slash (here : Path) : IsLast [] (.taken (Spot.at here))

theorem IsLast.busy {name : Text} {path : Path} {asDirectory : Bool}
    (last : IsLast name (.free path asDirectory)) : name ≠ [] := by
  cases last with
  | name plain => exact plain.nonempty

section

variable {tree : FileTree} {followLast : Bool} {name : Text} {place : Place}

/-- A walk by some components and a last step comes through a directory, if walks that start at
links on the way do. -/
theorem walkWith_init (last : IsLast name place)
    {follow follow' : Path → List Text → Except SystemError Place}
    (follows : ∀ base names, follow base (names ++ [name]) = .ok place →
      ToDirectory tree (follow' base names))
    {here : Path} {components : List Text}
    (ends : tree.walkWith followLast follow here (components ++ [name]) = .ok place) :
    ToDirectory tree (tree.walkWith true follow' here components) := by
  fun_induction walkWith tree true follow' here components with
  | case1 here =>
      rw [List.nil_append, walkWith] at ends
      by_cases isDirectory : tree.get? here = some .directory
      · exact ⟨here, rfl, isDirectory⟩
      · rw [if_pos isDirectory] at ends
        cases ends
  | case2 here component rest noDirectory =>
      rw [List.cons_append, walkWith, if_pos noDirectory] at ends
      cases ends
  | case3 here component rest isDirectory idle inductionHypothesis =>
      rw [List.cons_append, walkWith, if_neg isDirectory, if_pos idle] at ends
      exact inductionHypothesis ends
  | case4 here rest isDirectory busy inductionHypothesis =>
      rw [List.cons_append, walkWith, if_neg isDirectory, if_neg busy, if_pos rfl] at ends
      exact inductionHypothesis ends
  | case5 here component rest isDirectory busy down long =>
      rw [List.cons_append, walkWith, if_neg isDirectory, if_neg busy, if_neg down, if_pos long]
        at ends
      cases ends
  | case6 here component rest isDirectory busy down short next free _
  | case7 here component rest isDirectory busy down short next free _ =>
      -- Past a free place only slashes could lead on, and then the walk would end free.
      rw [List.cons_append, walkWith, if_neg isDirectory, if_neg busy, if_neg down, if_neg short]
        at ends
      simp only [next] at free
      simp only [free] at ends
      split at ends
      next idle =>
        obtain rfl := Except.ok.inj ends
        have isEmpty := List.all_eq_true.mp idle name (List.mem_append_right _ List.mem_cons_self)
        exact absurd (List.isEmpty_iff.mp isEmpty) last.busy
      next => cases ends
  | case8 here component rest isDirectory busy down short next goal isLink final => simp at final
  | case9 here component rest isDirectory busy down short next goal isLink more =>
      rw [List.cons_append, walkWith, if_neg isDirectory, if_neg busy, if_neg down, if_neg short]
        at ends
      simp only [next] at isLink
      simp only [isLink] at ends
      rw [if_neg (by simp), ← List.append_assoc] at ends
      exact follows _ _ ends
  | case10 here component rest isDirectory busy down short next entry notLink present
      inductionHypothesis =>
      rw [List.cons_append, walkWith, if_neg isDirectory, if_neg busy, if_neg down, if_neg short]
        at ends
      simp only [next] at present
      cases entry with
      | directory =>
          simp only [present] at ends
          exact inductionHypothesis ends
      | file content =>
          simp only [present] at ends
          exact inductionHypothesis ends
      | link goal => exact absurd rfl (notLink goal)

theorem walkFrom_init (last : IsLast name place) {linksLeft : Nat} {here : Path}
    {components : List Text}
    (ends : tree.walkFrom followLast linksLeft here (components ++ [name]) = .ok place) :
    ToDirectory tree (tree.walkFrom true linksLeft here components) := by
  induction linksLeft generalizing here components with
  | zero => exact walkWith_init last (by rintro _ _ ⟨⟩) ends
  | succ linksLeft inductionHypothesis =>
      refine walkWith_init last ?_ ends
      exact fun base names ends => inductionHypothesis ends

theorem walkUp_init (last : IsLast name place) {path : Path} {lost : Nat} {components : List Text}
    (ends : tree.walkUp followLast path lost (components ++ [name]) = .ok place) :
    ToDirectory tree (tree.walkUp true path lost components) := by
  fun_induction walkUp tree true path lost components with
  | case1 lost =>
      cases lost with
      | zero =>
          have ends : tree.walkFrom followLast linkLimit path ([] ++ [name]) = .ok place := ends
          exact walkFrom_init last ends
      | succ levels =>
          -- In what is lost there are neither names nor directories of the tree.
          rw [List.nil_append, walkUp.eq_def] at ends
          cases last with
          | name plain =>
              simp only [if_neg plain.busy, if_neg plain.notUp] at ends
              cases ends
          | slash here => cases ends
  | case2 component rest => exact walkFrom_init last ends
  | case3 component rest levels idle inductionHypothesis =>
      rw [List.cons_append, walkUp.eq_def] at ends
      simp only [if_pos idle] at ends
      exact inductionHypothesis ends
  | case4 rest levels busy inductionHypothesis =>
      rw [List.cons_append, walkUp.eq_def] at ends
      simp only [if_neg busy] at ends
      exact inductionHypothesis ends
  | case5 component rest levels busy down =>
      rw [List.cons_append, walkUp.eq_def] at ends
      simp only [if_neg busy, if_neg down] at ends
      cases ends

end

/-! ### Written paths -/

section

variable {tree grown : FileTree} {workingDirectory : Spot} {followLast : Bool}

theorem size_append (t rest : Text) :
    Text.Utf8.size (t ++ rest) = Text.Utf8.size t + Text.Utf8.size rest := by
  have counted (start : Nat) (t : Text) :
      t.foldl (fun total c => total + c.utf8Size) start = start + Text.Utf8.size t := by
    induction t generalizing start with
    | nil => rfl
    | cons c t inductionHypothesis =>
        rw [Text.Utf8.size, List.foldl_cons, List.foldl_cons, inductionHypothesis,
          inductionHypothesis, Nat.zero_add, Nat.add_assoc]
  rw [Text.Utf8.size, List.foldl_append, counted]
  rfl

/-- A walk that comes to an end is one by the components of its path. -/
theorem walk_eq_ok_iff {path : Text} {place : Place} :
    tree.walk workingDirectory followLast path = .ok place ↔
      path ≠ [] ∧ Text.Utf8.size path ≤ pathLimit ∧
        let start := if Spelling.isAbsolute path then Spot.root else workingDirectory
        tree.walkUp followLast start.path start.lost (Text.splitOn '/' path) = .ok place := by
  unfold walk
  split
  next empty => simp [List.isEmpty_iff.mp empty]
  next nonempty =>
    split
    next long => simp [Nat.not_le.mpr long]
    next short =>
      have nonempty : path ≠ [] := fun empty => nonempty (List.isEmpty_iff.mpr empty)
      simp [nonempty, Nat.not_lt.mp short]

theorem isAbsolute_append {path : Text} (nonempty : path ≠ []) (rest : Text) :
    Spelling.isAbsolute (path ++ rest) = Spelling.isAbsolute path := by
  rw [Spelling.isAbsolute, Spelling.isAbsolute, List.head?_append_of_ne_nil path nonempty]

/-- A written path with a last step leads through the directory that it is written after. -/
theorem walk_init {name : Text} {place : Place} (last : IsLast name place) (single : '/' ∉ name)
    {path : Text} (nonempty : path ≠ [])
    (ends : tree.walk workingDirectory followLast (path ++ '/' :: name) = .ok place) :
    ToDirectory tree (tree.walk workingDirectory true path) := by
  obtain ⟨-, short, ends⟩ := walk_eq_ok_iff.mp ends
  rw [Text.splitOn_append, Text.splitOn_whole single, isAbsolute_append nonempty] at ends
  obtain ⟨here, arrives, isDirectory⟩ := walkUp_init last ends
  rw [size_append] at short
  exact ⟨here, walk_eq_ok_iff.mpr ⟨nonempty, by omega, arrives⟩, isDirectory⟩

/-- A path of slashes leads to the root. -/
theorem walk_slashes {path : Text} (nonempty : path ≠ []) (slashes : ∀ c ∈ path, c = '/')
    (short : Text.Utf8.size path ≤ pathLimit) :
    ToDirectory tree (tree.walk workingDirectory true path) := by
  have idle (t : Text) (slashes : ∀ c ∈ t, c = '/') :
      (Text.splitOn '/' t).all List.isEmpty = true := by
    induction t with
    | nil => rfl
    | cons c t inductionHypothesis =>
        rw [List.forall_mem_cons] at slashes
        rw [Text.splitOn, if_pos slashes.1, List.all_cons, inductionHypothesis slashes.2]
        rfl
  have rooted : Spelling.isAbsolute path = true := by
    obtain ⟨c, t, rfl⟩ := List.exists_cons_of_ne_nil nonempty
    rw [slashes c List.mem_cons_self]
    rfl
  have arrives : tree.walkUp true [] 0 (Text.splitOn '/' path) = .ok (.taken (Spot.at [])) := by
    have pieces := idle path slashes
    obtain ⟨first, rest, split⟩ := List.exists_cons_of_ne_nil (Text.splitOn_ne_nil '/' path)
    rw [split] at pieces ⊢
    exact walkWith_slashes rfl pieces
  refine ⟨[], walk_eq_ok_iff.mpr ⟨nonempty, short, ?_⟩, rfl⟩
  rw [if_pos rooted]
  exact arrives

/-- Slashes at the end of a path to a directory do not matter. -/
theorem walk_withoutSlashes {path : Text} (solid : ¬ ∀ c ∈ path, c = '/')
    (arrives : ToDirectory tree (tree.walk workingDirectory true path)) :
    ToDirectory tree
      (tree.walk workingDirectory true (Text.dropEndWhile (· == '/') path)) := by
  induction path using List.reverseRecOn with
  | nil => exact absurd nofun solid
  | append_singleton path c inductionHypothesis =>
      by_cases slash : c = '/'
      · subst slash
        have still : ¬ ∀ c ∈ path, c = '/' := by
          intro slashes
          refine solid fun c member => ?_
          rcases List.mem_append.mp member with before | final
          · exact slashes c before
          · exact List.mem_singleton.mp final
        have nonempty : path ≠ [] := by
          rintro rfl
          exact still nofun
        obtain ⟨here, ends, -⟩ := arrives
        have above := walk_init (.slash here) List.not_mem_nil nonempty ends
        rw [Text.dropEndWhile_append_of_pos (by simp)]
        exact inductionHypothesis still above
      · rw [Text.dropEndWhile_of_getLast? List.getLast?_concat (by simpa using slash)]
        exact arrives

/-- The written directory of a path that leads somewhere leads to a directory, if there is one. -/
theorem walk_directory {base name : Text} {place : Place} (plain : Spelling.IsPlain name)
    (ends : tree.walk workingDirectory followLast (base ++ '/' :: name) = .ok place) :
    ToDirectory tree
      (tree.walk workingDirectory true (Spelling.directory (base ++ '/' :: name))) := by
  rw [Spelling.directory_append base plain.single]
  split
  next slashes =>
    have all : ∀ c ∈ base ++ ['/'], c = '/' := by
      intro c member
      rcases List.mem_append.mp member with before | final
      · exact beq_iff_eq.mp (List.all_eq_true.mp slashes c before)
      · exact List.mem_singleton.mp final
    obtain ⟨-, short, -⟩ := walk_eq_ok_iff.mp ends
    rw [List.append_cons, size_append] at short
    exact walk_slashes (by simp) all (by omega)
  next solid =>
    have solid : ¬ ∀ c ∈ base, c = '/' := by
      intro slashes
      exact solid (List.all_eq_true.mpr fun c member => beq_iff_eq.mpr (slashes c member))
    have nonempty : base ≠ [] := by
      rintro rfl
      exact solid nofun
    exact walk_withoutSlashes solid (walk_init (.name plain) plain.single nonempty ends)

/-- Where a path has led to a free place, it leads there in a tree that has grown elsewhere. -/
theorem walk_free_of_grows (grows : Grows tree grown) {path name : Text} {upper : List Text}
    (pieces : Text.splitOn '/' path = upper ++ [name]) (plain : Spelling.IsPlain name)
    {own : Path} {asDirectory : Bool}
    (ends : tree.walk workingDirectory false path = .ok (.free own asDirectory))
    (free : grown.get? own = none) (followLast : Bool) :
    grown.walk workingDirectory followLast path = .ok (.free own false) := by
  obtain ⟨nonempty, short, ends⟩ := walk_eq_ok_iff.mp ends
  refine walk_eq_ok_iff.mpr ⟨nonempty, short, ?_⟩
  rw [pieces] at ends ⊢
  obtain ⟨here, arrives, isDirectory⟩ := walkUp_init (.name plain) ends
  have isChild : tree.child here name = .ok (.free own asDirectory) :=
    (walkUp_child (fun _ => walkWith_name isDirectory plain fun _ _ => rfl) arrives).symm.trans ends
  obtain rfl := child_eq_free isChild
  have stillThere := grows.directory isDirectory
  have sameChild : grown.child here name = .ok (.free (here ++ [name]) false) := by
    unfold child at isChild ⊢
    split at isChild
    next => cases isChild
    next fits => rw [if_neg fits, if_pos free]
  rw [← sameChild]
  exact walkUp_child (fun _ => walkWith_name stillThere plain (isEnd_of_free free))
    (walkUp_filled grows arrives (.taken (Spot.at here)))

end

end CueWatch.FileTree
