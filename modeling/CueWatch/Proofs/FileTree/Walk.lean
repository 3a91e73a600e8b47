import CueWatch.FileTree.Resolve

/-!
Contract: what a written path leads to when a tree grows.

Owns:
- `Grows`, the trees in which everything stands that stood before, but for the contents of files;
- that a walk leads to the same place in a tree that has grown, and to the entry that has been
  placed where it ended free;
- `IsFree`, the places in a directory where nothing stands, which are those where walks end free;
- that a walk that does not follow a final link ends free only where one that follows it does.

Does not own: the operations that make trees grow (`Host.Files`).
-/

namespace CueWatch.FileTree

/-! ### Trees that grow -/

/-- Two entries on which a walk goes on in the same way. -/
inductive Alike : Entry → Entry → Prop
  | same (entry : Entry) : Alike entry entry
  | file (content other : Content) : Alike (.file content) (.file other)

/-- What stands in the first tree stands in the second, but for the contents of files. -/
def Grows (tree grown : FileTree) : Prop :=
  ∀ path entry, tree.get? path = some entry → ∃ other, grown.get? path = some other ∧
    Alike entry other

/-- What stands in the first tree stands in the second. -/
def Includes (larger tree : FileTree) : Prop :=
  ∀ path entry, tree.get? path = some entry → larger.get? path = some entry

theorem Includes.grows {tree larger : FileTree} (includes : Includes larger tree) :
    Grows tree larger :=
  fun path entry present => ⟨entry, includes path entry present, .same entry⟩

theorem Includes.refl (tree : FileTree) : Includes tree tree := fun _ _ present => present

theorem Includes.trans {tree larger largest : FileTree} (second : Includes largest larger)
    (first : Includes larger tree) : Includes largest tree :=
  fun path entry present => second path entry (first path entry present)

theorem Grows.directory {tree grown : FileTree} (grows : Grows tree grown) {path : Path}
    (present : tree.get? path = some .directory) : grown.get? path = some .directory := by
  obtain ⟨other, found, alike⟩ := grows path .directory present
  cases alike
  exact found

theorem Grows.link {tree grown : FileTree} (grows : Grows tree grown) {path : Path} {target : Text}
    (present : tree.get? path = some (.link target)) : grown.get? path = some (.link target) := by
  obtain ⟨other, found, alike⟩ := grows path (.link target) present
  cases alike
  exact found

theorem Grows.file {tree grown : FileTree} (grows : Grows tree grown) {path : Path}
    {content : Content} (present : tree.get? path = some (.file content)) :
    ∃ other, grown.get? path = some (.file other) := by
  obtain ⟨other, found, alike⟩ := grows path (.file content) present
  cases alike with
  | same => exact ⟨content, found⟩
  | file _ other => exact ⟨other, found⟩

theorem get?_place_self (tree : FileTree) {path : Path} (below : path ≠ []) (entry : Entry) :
    (tree.place path entry).get? path = some entry := by
  rw [get?, if_neg below, place, Keyed.find?_put_self]

theorem get?_place_of_ne {tree : FileTree} {path other : Path} (different : path ≠ other)
    (entry : Entry) : (tree.place path entry).get? other = tree.get? other := by
  rw [get?, get?, place, Keyed.find?_put_of_ne different]

/-- A tree includes what it was before an entry was placed where nothing stood. -/
theorem includes_place {tree : FileTree} {path : Path} (free : tree.get? path = none)
    (entry : Entry) : Includes (tree.place path entry) tree := by
  intro other present found
  have different : path ≠ other := by
    rintro rfl
    rw [free] at found
    cases found
  rwa [get?_place_of_ne different]

theorem ne_root_of_file {tree : FileTree} {path : Path} {content : Content}
    (present : tree.get? path = some (.file content)) : path ≠ [] := by
  rintro rfl
  cases present

/-- A file stands in the tree, not in what is lost. -/
theorem get?_of_file {tree : FileTree} {spot : Spot} {content : Content}
    (present : tree.entryAt? spot = some (.file content)) :
    spot.lost = 0 ∧ tree.get? spot.path = some (.file content) := by
  unfold entryAt? at present
  split at present
  next inTree => exact ⟨inTree, present⟩
  next => cases present

/-- A tree grows when a file takes the place of another. -/
theorem grows_place_file {tree : FileTree} {path : Path} {content : Content}
    (present : tree.get? path = some (.file content)) (other : Content) :
    Grows tree (tree.place path (.file other)) := by
  have below := ne_root_of_file present
  intro place entry found
  by_cases same : path = place
  · subst same
    rw [present] at found
    obtain rfl := Option.some.inj found
    exact ⟨.file other, get?_place_self tree below _, .file content other⟩
  · exact ⟨entry, by rwa [get?_place_of_ne same], .same entry⟩

/-! ### Where a walk ends in a tree that has grown -/

/-- Where a walk ends after a tree has grown: at the same entry, or at the entry that has been
placed where it ended free. -/
inductive Filled (grown : FileTree) : Place → Place → Prop
  | taken (spot : Spot) : Filled grown (.taken spot) (.taken spot)
  | directory {path : Path} (asDirectory : Bool) (placed : grown.get? path = some .directory) :
      Filled grown (.free path asDirectory) (.taken (Spot.at path))
  | file {path : Path} {content : Content} (placed : grown.get? path = some (.file content)) :
      Filled grown (.free path false) (.taken (Spot.at path))

/-- A walk that is over but for slashes stays in its directory. -/
theorem walkWith_slashes {tree : FileTree} {followLast : Bool}
    {follow : Path → List Text → Except SystemError Place} {here : Path} {components : List Text}
    (isDirectory : tree.get? here = some .directory) (idle : components.all List.isEmpty = true) :
    tree.walkWith followLast follow here components = .ok (.taken (Spot.at here)) := by
  induction components with
  | nil => rfl
  | cons component rest inductionHypothesis =>
      rw [List.all_cons, Bool.and_eq_true, List.isEmpty_iff] at idle
      obtain ⟨rfl, later⟩ := idle
      rw [walkWith, if_neg (not_not_intro isDirectory)]
      exact inductionHypothesis later

/-- Where a free place has been filled, the last step of a walk leads there. -/
theorem Filled.of_free {grown : FileTree} {followLast : Bool}
    {follow : Path → List Text → Except SystemError Place} {path : Path} {rest : List Text}
    {target : Place} (slashes : rest.all List.isEmpty = true)
    (filled : Filled grown (.free path (!rest.isEmpty)) target) :
    ∃ entry, grown.get? path = some entry ∧ (∀ goal, entry ≠ .link goal) ∧
      grown.walkWith followLast follow path rest = .ok target := by
  generalize isLonger : (!rest.isEmpty) = asDirectory at filled
  cases filled with
  | directory _ placed =>
      exact ⟨.directory, placed, fun _ => Entry.noConfusion, walkWith_slashes placed slashes⟩
  | @file _ content placed =>
      obtain rfl : rest = [] := by simpa using isLonger
      exact ⟨.file content, placed, fun _ => Entry.noConfusion, rfl⟩

theorem walkWith_filled {tree grown : FileTree} (grows : Grows tree grown) {followLast : Bool}
    {follow follow' : Path → List Text → Except SystemError Place}
    (follows : ∀ base names place target, follow base names = .ok place →
      Filled grown place target → follow' base names = .ok target)
    {here : Path} {components : List Text} {place target : Place}
    (arrives : tree.walkWith followLast follow here components = .ok place)
    (filled : Filled grown place target) :
    grown.walkWith followLast follow' here components = .ok target := by
  have stays : ∀ {here}, ¬ tree.get? here ≠ some .directory →
      ¬ grown.get? here ≠ some .directory :=
    fun isDirectory => not_not_intro (grows.directory (Decidable.not_not.mp isDirectory))
  -- Only where the old walk ended (6) can the new one find something else; on the way (9, 10) an
  -- entry is still what it was, up to the content of a file.
  fun_induction walkWith tree followLast follow here components with
  | case1 =>
      obtain rfl := Except.ok.inj arrives
      cases filled
      rfl
  | case2 => cases arrives
  | case3 _ _ _ isDirectory idle inductionHypothesis =>
      rw [walkWith, if_neg (stays isDirectory), if_pos idle]
      exact inductionHypothesis arrives
  | case4 _ _ isDirectory busy inductionHypothesis =>
      rw [walkWith, if_neg (stays isDirectory), if_neg busy, if_pos rfl]
      exact inductionHypothesis arrives
  | case5 => cases arrives
  | case6 here component rest isDirectory busy down short next free slashes =>
      obtain rfl := Except.ok.inj arrives
      obtain ⟨entry, placed, notLink, ends⟩ := Filled.of_free slashes filled
      rw [walkWith, if_neg (stays isDirectory), if_neg busy, if_neg down, if_neg short]
      cases entry with
      | directory => simpa only [next, placed] using ends
      | file content => simpa only [next, placed] using ends
      | link goal => exact absurd rfl (notLink goal)
  | case7 => cases arrives
  | case8 here component rest isDirectory busy down short next goal isLink last =>
      obtain rfl := Except.ok.inj arrives
      cases filled
      rw [walkWith, if_neg (stays isDirectory), if_neg busy, if_neg down, if_neg short]
      simp only [next, grows.link isLink, if_pos last]
  | case9 here component rest isDirectory busy down short next goal isLink more =>
      rw [walkWith, if_neg (stays isDirectory), if_neg busy, if_neg down, if_neg short]
      simp only [next, grows.link isLink, if_neg more]
      exact follows _ _ _ _ arrives filled
  | case10 here component rest isDirectory busy down short next entry notLink present
      inductionHypothesis =>
      rw [walkWith, if_neg (stays isDirectory), if_neg busy, if_neg down, if_neg short]
      cases entry with
      | directory =>
          simp only [next, grows.directory present]
          exact inductionHypothesis arrives
      | file content =>
          obtain ⟨other, found⟩ := grows.file present
          simp only [next, found]
          exact inductionHypothesis arrives
      | link goal => exact absurd rfl (notLink goal)

theorem walkFrom_filled {tree grown : FileTree} (grows : Grows tree grown) {followLast : Bool}
    {linksLeft : Nat} {here : Path} {components : List Text} {place target : Place}
    (arrives : tree.walkFrom followLast linksLeft here components = .ok place)
    (filled : Filled grown place target) :
    grown.walkFrom followLast linksLeft here components = .ok target := by
  -- A link starts a new walk with one link less to follow.
  induction linksLeft generalizing here components place target with
  | zero => exact walkWith_filled grows (by rintro _ _ _ _ ⟨⟩) arrives filled
  | succ linksLeft inductionHypothesis =>
      exact walkWith_filled grows
        (fun _ _ _ _ arrives filled => inductionHypothesis arrives filled) arrives filled

theorem walkUp_filled {tree grown : FileTree} (grows : Grows tree grown) {followLast : Bool}
    {path : Path} {lost : Nat} {components : List Text} {place target : Place}
    (arrives : tree.walkUp followLast path lost components = .ok place)
    (filled : Filled grown place target) :
    grown.walkUp followLast path lost components = .ok target := by
  fun_induction walkUp tree followLast path lost components with
  | case1 =>
      obtain rfl := Except.ok.inj arrives
      cases filled
      rfl
  | case2 => exact walkFrom_filled grows arrives filled
  | case3 component rest levels idle inductionHypothesis =>
      rw [walkUp.eq_def]
      simp only [if_pos idle]
      exact inductionHypothesis arrives
  | case4 rest levels busy inductionHypothesis =>
      rw [walkUp.eq_def]
      simp only [if_neg busy]
      exact inductionHypothesis arrives
  | case5 => cases arrives

/-- In a tree that has grown, a written path leads to the same entry, or to the entry that has been
placed where it led to nothing. -/
theorem walk_filled {tree grown : FileTree} (grows : Grows tree grown) {workingDirectory : Spot}
    {followLast : Bool} {path : Text} {place target : Place}
    (arrives : tree.walk workingDirectory followLast path = .ok place)
    (filled : Filled grown place target) :
    grown.walk workingDirectory followLast path = .ok target := by
  unfold walk at arrives ⊢
  split at arrives
  next => cases arrives
  next nonempty =>
    rw [if_neg nonempty]
    split at arrives
    next => cases arrives
    next short =>
      rw [if_neg short]
      exact walkUp_filled grows arrives filled

/-! ### Free places -/

/-- Nothing stands at a path, but the directory that it would be in does. -/
structure IsFree (tree : FileTree) (path : Path) : Prop where
  free : tree.get? path = none
  parent : tree.get? path.parent = some .directory

theorem IsFree.below {tree : FileTree} {path : Path} (isFree : IsFree tree path) : path ≠ [] := by
  rintro rfl
  cases isFree.free

theorem walkWith_free {tree : FileTree} {followLast : Bool}
    {follow : Path → List Text → Except SystemError Place}
    (follows : ∀ base names path asDirectory,
      follow base names = .ok (.free path asDirectory) → IsFree tree path)
    {here path : Path} {components : List Text} {asDirectory : Bool}
    (ends : tree.walkWith followLast follow here components = .ok (.free path asDirectory)) :
    IsFree tree path := by
  fun_induction walkWith tree followLast follow here components with
  | case1 | case2 | case5 | case7 | case8 => cases ends
  | case3 _ _ _ _ _ inductionHypothesis => exact inductionHypothesis ends
  | case4 _ _ _ _ inductionHypothesis => exact inductionHypothesis ends
  | case6 here component rest isDirectory busy down short next free slashes =>
      obtain ⟨rfl, -⟩ := Place.free.inj (Except.ok.inj ends)
      refine ⟨free, ?_⟩
      rw [Path.parent, List.dropLast_concat]
      exact Decidable.not_not.mp isDirectory
  | case9 => exact follows _ _ _ _ ends
  | case10 _ _ _ _ _ _ _ _ _ _ _ inductionHypothesis => exact inductionHypothesis ends

theorem walkFrom_free {tree : FileTree} {followLast : Bool} {linksLeft : Nat} {here path : Path}
    {components : List Text} {asDirectory : Bool}
    (ends : tree.walkFrom followLast linksLeft here components = .ok (.free path asDirectory)) :
    IsFree tree path := by
  induction linksLeft generalizing here path components asDirectory with
  | zero => exact walkWith_free (by rintro _ _ _ _ ⟨⟩) ends
  | succ linksLeft inductionHypothesis =>
      exact walkWith_free (fun _ _ _ _ later => inductionHypothesis later) ends

theorem walkUp_free {tree : FileTree} {followLast : Bool} {path place : Path} {lost : Nat}
    {components : List Text} {asDirectory : Bool}
    (ends : tree.walkUp followLast path lost components = .ok (.free place asDirectory)) :
    IsFree tree place := by
  fun_induction walkUp tree followLast path lost components with
  | case1 | case5 => cases ends
  | case2 => exact walkFrom_free ends
  | case3 _ _ _ _ inductionHypothesis => exact inductionHypothesis ends
  | case4 _ _ _ inductionHypothesis => exact inductionHypothesis ends

/-- A free place at which a walk ends is in a directory. -/
theorem walk_free {tree : FileTree} {workingDirectory : Spot} {followLast : Bool} {path : Text}
    {place : Path} {asDirectory : Bool}
    (ends : tree.walk workingDirectory followLast path = .ok (.free place asDirectory)) :
    IsFree tree place := by
  unfold walk at ends
  split at ends
  next => cases ends
  next =>
    split at ends
    next => cases ends
    next => exact walkUp_free ends

/-! ### Following a final link -/

/-- An outcome of a walk that has not come to an entry. -/
def EndsElsewhere (outcome : Except SystemError Place) : Prop := ∀ spot, outcome ≠ .ok (.taken spot)

/-- A walk that does not come to an entry has not met a final link. -/
theorem walkWith_following {tree : FileTree}
    {follow follow' : Path → List Text → Except SystemError Place}
    (follows : ∀ base names, EndsElsewhere (follow base names) →
      follow' base names = follow base names)
    {here : Path} {components : List Text}
    (elsewhere : EndsElsewhere (tree.walkWith false follow here components)) :
    tree.walkWith true follow' here components = tree.walkWith false follow here components := by
  fun_induction walkWith tree false follow here components with
  | case1 => exact absurd rfl (elsewhere _)
  | case2 _ _ _ noDirectory => rw [walkWith, if_pos noDirectory]
  | case3 _ _ _ isDirectory idle inductionHypothesis =>
      rw [walkWith, if_neg isDirectory, if_pos idle]
      exact inductionHypothesis elsewhere
  | case4 _ _ isDirectory busy inductionHypothesis =>
      rw [walkWith, if_neg isDirectory, if_neg busy, if_pos rfl]
      exact inductionHypothesis elsewhere
  | case5 _ _ _ isDirectory busy down long =>
      rw [walkWith, if_neg isDirectory, if_neg busy, if_neg down, if_pos long]
  | case6 here component rest isDirectory busy down short next free slashes =>
      rw [walkWith, if_neg isDirectory, if_neg busy, if_neg down, if_neg short]
      simp only [next, free, if_pos slashes]
  | case7 here component rest isDirectory busy down short next free noSlashes =>
      rw [walkWith, if_neg isDirectory, if_neg busy, if_neg down, if_neg short]
      simp only [next, free, if_neg noSlashes]
  | case8 =>
      -- A final link that is not followed is an entry itself.
      exact absurd rfl (elsewhere _)
  | case9 here component rest isDirectory busy down short next goal isLink more =>
      rw [walkWith, if_neg isDirectory, if_neg busy, if_neg down, if_neg short]
      have notFinal : ¬ (rest.isEmpty && !true) = true := by simp
      simp only [next, isLink, if_neg notFinal]
      exact follows _ _ elsewhere
  | case10 here component rest isDirectory busy down short next entry notLink present
      inductionHypothesis =>
      rw [walkWith, if_neg isDirectory, if_neg busy, if_neg down, if_neg short]
      cases entry with
      | directory =>
          simp only [next, present]
          exact inductionHypothesis elsewhere
      | file content =>
          simp only [next, present]
          exact inductionHypothesis elsewhere
      | link goal => exact absurd rfl (notLink goal)

theorem walkFrom_following {tree : FileTree} {linksLeft : Nat} {here : Path}
    {components : List Text}
    (elsewhere : EndsElsewhere (tree.walkFrom false linksLeft here components)) :
    tree.walkFrom true linksLeft here components =
      tree.walkFrom false linksLeft here components := by
  induction linksLeft generalizing here components with
  | zero => exact walkWith_following (fun _ _ _ => rfl) elsewhere
  | succ linksLeft inductionHypothesis =>
      exact walkWith_following (fun _ _ elsewhere => inductionHypothesis elsewhere) elsewhere

theorem walkUp_following {tree : FileTree} {path : Path} {lost : Nat} {components : List Text}
    (elsewhere : EndsElsewhere (tree.walkUp false path lost components)) :
    tree.walkUp true path lost components = tree.walkUp false path lost components := by
  fun_induction walkUp tree false path lost components with
  | case1 => exact absurd rfl (elsewhere _)
  | case2 => exact walkFrom_following elsewhere
  | case3 component rest levels idle inductionHypothesis =>
      rw [walkUp.eq_def]
      simp only [if_pos idle]
      exact inductionHypothesis elsewhere
  | case4 rest levels busy inductionHypothesis =>
      rw [walkUp.eq_def]
      simp only [if_neg busy]
      exact inductionHypothesis elsewhere
  | case5 component rest levels busy down =>
      rw [walkUp.eq_def]
      simp only [if_neg busy, if_neg down]

/-- A walk that does not come to an entry ends the same way if it follows a final link. -/
theorem walk_following {tree : FileTree} {workingDirectory : Spot} {path : Text}
    (elsewhere : EndsElsewhere (tree.walk workingDirectory false path)) :
    tree.walk workingDirectory true path = tree.walk workingDirectory false path := by
  unfold walk at elsewhere ⊢
  split
  next => rfl
  next nonempty =>
    rw [if_neg nonempty] at elsewhere
    split
    next => rfl
    next short =>
      rw [if_neg short] at elsewhere
      exact walkUp_following elsewhere

/-- Where a walk comes to an entry, one that does not follow a final link does. -/
theorem exists_taken_of_taken {tree : FileTree} {workingDirectory spot : Spot} {path : Text}
    (arrives : tree.walk workingDirectory true path = .ok (.taken spot)) :
    ∃ own, tree.walk workingDirectory false path = .ok (.taken own) := by
  rcases ends : tree.walk workingDirectory false path with error | own | ⟨place, asDirectory⟩
  · rw [walk_following (by rw [ends]; rintro own ⟨⟩), ends] at arrives
    cases arrives
  · exact ⟨own, rfl⟩
  · rw [walk_following (by rw [ends]; rintro own ⟨⟩), ends] at arrives
    cases arrives

end CueWatch.FileTree
