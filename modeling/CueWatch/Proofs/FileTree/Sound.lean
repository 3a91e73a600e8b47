import CueWatch.Proofs.FileTree.Walk
import CueWatch.Proofs.Keyed
import CueWatch.Proofs.Path.Normal

/-!
Contract: trees in which everything stands in a directory.

Owns:
- `Sound`, and that placing an entry in a directory, where no directory stood, and removing an entry
  with everything below it keep trees sound;
- that nothing stands below a place that is free;
- `child`, where one name leads from a directory, and that a walk to a directory and one name further
  ends there.

Does not own: which operations place and remove entries (`Host.Files`).
-/

namespace CueWatch

/-! ### Dictionaries -/

theorem Keyed.find?_filter {κ β : Type} [DecidableEq κ] (keep : κ → Bool) (key : κ)
    (pairs : Keyed κ β) :
    find? key (pairs.filter fun pair => keep pair.1) =
      if keep key then find? key pairs else none := by
  induction pairs with
  | nil => simp [find?]
  | cons pair rest inductionHypothesis =>
      obtain ⟨k, v⟩ := pair
      by_cases same : k = key
      · subst same
        by_cases kept : keep k <;> simp [kept, find?, inductionHypothesis]
      · by_cases kept : keep k <;> simp [kept, find?, same, inductionHypothesis]

/-- The pieces of two texts with a separator between them. -/
theorem Text.splitOn_append (separator : Char) (t rest : Text) :
    splitOn separator (t ++ separator :: rest) = splitOn separator t ++ splitOn separator rest := by
  induction t with
  | nil => simp [splitOn]
  | cons c t inductionHypothesis =>
      rw [List.cons_append, splitOn, splitOn]
      split
      · rw [inductionHypothesis, List.cons_append]
      · rw [inductionHypothesis]
        cases pieces : splitOn separator t with
        | nil => exact absurd pieces (splitOn_ne_nil separator t)
        | cons first more => rfl

namespace FileTree

/-! ### Sound trees -/

/-- Everything in a tree stands in a directory. -/
def Sound (tree : FileTree) : Prop :=
  ∀ path entry, tree.get? path = some entry → tree.get? path.parent = some .directory

theorem sound_of_entries {tree : FileTree}
    (inside : ∀ pair ∈ tree.entries, tree.get? pair.1.parent = some .directory) : Sound tree := by
  intro path entry present
  unfold get? at present
  split at present
  next root => rw [root]; rfl
  next => exact inside _ (Keyed.mem_of_find? present)

theorem parent_ne {path : Path} (below : path ≠ []) : path.parent ≠ path := by
  intro same
  have lengths := congrArg List.length same
  have positive := List.length_pos_iff.mpr below
  rw [Path.parent, List.length_dropLast] at lengths
  omega

/-- An entry may be placed in a directory, if it does not take the place of another directory. -/
theorem Sound.place {tree : FileTree} (sound : Sound tree) {place : Path} (below : place ≠ [])
    (inside : tree.get? place.parent = some .directory) (leaf : tree.get? place ≠ some .directory)
    (entry : Entry) : Sound (tree.place place entry) := by
  intro path other present
  by_cases same : path = place
  · rw [same, get?_place_of_ne (parent_ne below).symm]
    exact inside
  · rw [get?_place_of_ne (Ne.symm same)] at present
    have above := sound path other present
    have apart : place ≠ path.parent := by
      intro isParent
      rw [isParent] at leaf
      exact leaf above
    rwa [get?_place_of_ne apart]

theorem Sound.place_free {tree : FileTree} (sound : Sound tree) {place : Path}
    (isFree : IsFree tree place) (entry : Entry) : Sound (tree.place place entry) := by
  refine sound.place isFree.below isFree.parent ?_ entry
  rw [isFree.free]
  exact nofun

theorem Sound.place_file {tree : FileTree} (sound : Sound tree) {place : Path} {old : Content}
    (present : tree.get? place = some (.file old)) (content : Content) :
    Sound (tree.place place (.file content)) := by
  refine sound.place (ne_root_of_file present) (sound place _ present) ?_ (.file content)
  rw [present]
  exact nofun

theorem get?_prune (tree : FileTree) (place path : Path) :
    (tree.prune place).get? path =
      if path = [] then some .directory
      else if place.isAtOrAbove path then none else tree.get? path := by
  by_cases root : path = []
  · rw [get?, if_pos root, if_pos root]
  · have kept := Keyed.find?_filter (fun path => !place.isAtOrAbove path) path tree.entries
    rw [get?, if_neg root, if_neg root, get?, if_neg root, prune, kept]
    by_cases above : place.isAtOrAbove path
    · simp [above]
    · simp [above]

theorem Sound.prune {tree : FileTree} (sound : Sound tree) (place : Path) :
    Sound (tree.prune place) := by
  intro path entry present
  rw [get?_prune] at present ⊢
  by_cases top : path.parent = []
  · rw [if_pos top]
  · have below : path ≠ [] := by
      rintro rfl
      exact top rfl
    rw [if_neg below] at present
    split at present
    next => cases present
    next apart =>
      -- What is below the parent of a path is below the path itself.
      have parentApart : ¬ place.isAtOrAbove path.parent = true := by
        intro above
        rw [Path.isAtOrAbove, List.isPrefixOf_iff_prefix] at above apart
        exact apart (above.trans (List.dropLast_prefix path))
      rw [if_neg top, if_neg parentApart]
      exact sound path entry present

/-- Nothing stands below a place at which no directory stands. -/
theorem Sound.get?_below {tree : FileTree} (sound : Sound tree) {place : Path}
    (leaf : tree.get? place ≠ some .directory) (name : Text) :
    tree.get? (place ++ [name]) = none := by
  cases present : tree.get? (place ++ [name]) with
  | none => rfl
  | some entry =>
      have above := sound _ entry present
      rw [Path.parent, List.dropLast_concat] at above
      exact absurd above leaf

/-- Nothing stands below a place that is free. -/
theorem Sound.get?_of_above {tree : FileTree} (sound : Sound tree) {place : Path}
    (free : tree.get? place = none) {path : Path} (above : place.isAtOrAbove path = true) :
    tree.get? path = none := by
  rw [Path.isAtOrAbove, List.isPrefixOf_iff_prefix] at above
  obtain ⟨names, rfl⟩ := above
  induction names using List.reverseRecOn with
  | nil => rwa [List.append_nil]
  | append_singleton names name inductionHypothesis =>
      rw [← List.append_assoc]
      refine sound.get?_below ?_ name
      rw [inductionHypothesis]
      exact nofun

/-! ### One name further -/

section Child

variable {tree : FileTree} {place : Path} {name : Text}

/-- Where one name leads from a directory, as long as it is no link that is followed. -/
def child (tree : FileTree) (place : Path) (name : Text) : Except SystemError Place :=
  if nameLimit < Text.Utf8.size name then .error .nameTooLong
  else if tree.get? (place ++ [name]) = none then .ok (.free (place ++ [name]) false)
  else .ok (.taken (Spot.at (place ++ [name])))

theorem child_eq_free {path : Path} {asDirectory : Bool}
    (ends : tree.child place name = .ok (.free path asDirectory)) : path = place ++ [name] := by
  unfold child at ends
  split at ends
  next => cases ends
  next =>
    split at ends
    next => exact (Place.free.inj (Except.ok.inj ends)).1.symm
    next => cases ends

theorem child_ne_taken (free : tree.get? (place ++ [name]) = none) (spot : Spot) :
    tree.child place name ≠ .ok (.taken spot) := by
  rw [child, if_pos free]
  split
  next => exact nofun
  next => exact nofun

/-- The name is no link that is followed. -/
def IsEnd (tree : FileTree) (followLast : Bool) (path : Path) : Prop :=
  ∀ target, tree.get? path = some (.link target) → followLast = false

theorem isEnd_of_free {followLast : Bool} {path : Path} (free : tree.get? path = none) :
    IsEnd tree followLast path := by
  intro target isLink
  rw [free] at isLink
  cases isLink

theorem walkWith_name {followLast : Bool} {follow : Path → List Text → Except SystemError Place}
    (isDirectory : tree.get? place = some .directory) (plain : Spelling.IsPlain name)
    (isEnd : IsEnd tree followLast (place ++ [name])) :
    tree.walkWith followLast follow place [name] = tree.child place name := by
  rw [walkWith, if_neg (not_not_intro isDirectory), if_neg plain.busy, if_neg plain.notUp, child]
  split
  next => rfl
  next =>
    cases present : tree.get? (place ++ [name]) with
    | none => simp [present]
    | some entry =>
        cases entry with
        | link target => simp [present, isEnd target present]
        | directory | file content => simp [present, walkWith]

variable {followLast : Bool} {ended : Except SystemError Place}

/-- A walk to a directory and one name further ends as a walk by that name does from there, if walks
that start at links on the way do. -/
theorem walkWith_child {follow follow' : Path → List Text → Except SystemError Place}
    (follows : ∀ base names, follow base names = .ok (.taken (Spot.at place)) →
      follow' base (names ++ [name]) = ended)
    (ends : tree.walkWith followLast follow' place [name] = ended) {here : Path}
    {components : List Text}
    (arrives : tree.walkWith true follow here components = .ok (.taken (Spot.at place))) :
    tree.walkWith followLast follow' here (components ++ [name]) = ended := by
  fun_induction walkWith tree true follow here components with
  | case1 here =>
      obtain rfl : here = place := congrArg Spot.path (Place.taken.inj (Except.ok.inj arrives))
      exact ends
  | case2 | case5 | case6 | case7 => cases arrives
  | case3 here component rest inTree idle inductionHypothesis =>
      rw [List.cons_append, walkWith, if_neg inTree, if_pos idle]
      exact inductionHypothesis arrives
  | case4 here rest inTree busy inductionHypothesis =>
      rw [List.cons_append, walkWith, if_neg inTree, if_neg busy, if_pos rfl]
      exact inductionHypothesis arrives
  | case8 here component rest inTree busy down short next goal isLink last => simp at last
  | case9 here component rest inTree busy down short next goal isLink more =>
      rw [List.cons_append, walkWith, if_neg inTree, if_neg busy, if_neg down, if_neg short]
      simp only [next, isLink]
      rw [if_neg (by simp), ← List.append_assoc]
      exact follows _ _ arrives
  | case10 here component rest inTree busy down short next entry notLink present
      inductionHypothesis =>
      rw [List.cons_append, walkWith, if_neg inTree, if_neg busy, if_neg down, if_neg short]
      cases entry with
      | directory =>
          simp only [next, present]
          exact inductionHypothesis arrives
      | file content =>
          simp only [next, present]
          exact inductionHypothesis arrives
      | link goal => exact absurd rfl (notLink goal)

section

variable (ends : ∀ follow, tree.walkWith followLast follow place [name] = ended)

include ends

theorem walkFrom_child {linksLeft : Nat} {here : Path} {components : List Text}
    (arrives : tree.walkFrom true linksLeft here components = .ok (.taken (Spot.at place))) :
    tree.walkFrom followLast linksLeft here (components ++ [name]) = ended := by
  induction linksLeft generalizing here components with
  | zero => exact walkWith_child (by rintro _ _ ⟨⟩) (ends _) arrives
  | succ linksLeft inductionHypothesis =>
      exact walkWith_child (fun _ _ arrives => inductionHypothesis arrives) (ends _) arrives

theorem walkUp_child {path : Path} {lost : Nat} {components : List Text}
    (arrives : tree.walkUp true path lost components = .ok (.taken (Spot.at place))) :
    tree.walkUp followLast path lost (components ++ [name]) = ended := by
  fun_induction walkUp tree true path lost components with
  | case1 =>
      obtain ⟨isHere, rfl⟩ := Spot.mk.inj (Place.taken.inj (Except.ok.inj arrives))
      rw [isHere]
      exact ends _
  | case2 => exact walkFrom_child ends arrives
  | case3 component rest levels idle inductionHypothesis =>
      rw [List.cons_append, walkUp.eq_def]
      simp only [if_pos idle]
      exact inductionHypothesis arrives
  | case4 rest levels busy inductionHypothesis =>
      rw [List.cons_append, walkUp.eq_def]
      simp only [if_neg busy]
      exact inductionHypothesis arrives
  | case5 => cases arrives

end

/-- A written path to a directory and one name further lead to what stands there under that name. -/
theorem walk_child {workingDirectory : Spot} {path : Text}
    (isDirectory : tree.get? place = some .directory) (plain : Spelling.IsPlain name)
    (isEnd : IsEnd tree followLast (place ++ [name]))
    (arrives : tree.walk workingDirectory true path = .ok (.taken (Spot.at place)))
    (shortPath : Text.Utf8.size (path ++ '/' :: name) ≤ pathLimit) :
    tree.walk workingDirectory followLast (path ++ '/' :: name) = tree.child place name := by
  unfold walk at arrives ⊢
  split at arrives
  next => cases arrives
  next nonempty =>
    split at arrives
    next => cases arrives
    next =>
      have longer : ¬ (path ++ '/' :: name).isEmpty = true := by simp
      have sameStart : Spelling.isAbsolute (path ++ '/' :: name) = Spelling.isAbsolute path := by
        rw [Spelling.isAbsolute, Spelling.isAbsolute, List.head?_append_of_ne_nil]
        simpa using nonempty
      rw [if_neg longer, if_neg (Nat.not_lt.mpr shortPath), sameStart, Text.splitOn_append,
        Text.splitOn_whole plain.single]
      exact walkUp_child (fun _ => walkWith_name isDirectory plain isEnd) arrives

end Child

end FileTree

end CueWatch
