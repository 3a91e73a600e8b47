import CueWatch.Proofs.FileTree.Resolved
import CueWatch.Proofs.FileTree.Upward

/-!
Contract: paths that are written from the working directory, and the same paths from the root.

Owns:
- `ancestor`, the directory some levels above;
- `Stands`, a directory of a sound tree with the names of entries on its way;
- that a path from there and the path from the root lead to the same entry, as long as the first is
  not too long, so that a way without links from there is one from the root;
- how a path from there is written from the root.

Does not own: which paths are resolved (`Proofs.FileTree.Resolved`).
-/

namespace CueWatch

/-! ### Joined components -/

theorem Text.join_isPrefix (separator : Text) {pieces more : List Text} (start : pieces <+: more) :
    join separator pieces <+: join separator more := by
  obtain ⟨rest, rfl⟩ := start
  induction rest using List.reverseRecOn with
  | nil => rw [List.append_nil]
  | append_singleton rest last inductionHypothesis =>
      rw [← List.append_assoc]
      by_cases none : pieces ++ rest = []
      · rw [(List.append_eq_nil_iff.mp none).1]
        exact List.nil_prefix
      · rw [join_concat _ none, List.append_assoc]
        exact inductionHypothesis.trans (List.prefix_append _ _)

namespace FileTree

/-- The directory some levels above; the root is above itself. -/
def ancestor : Nat → Path → Path
  | 0, place => place
  | levels + 1, place => ancestor levels place.parent

theorem ancestor_isPrefix (levels : Nat) (place : Path) : ancestor levels place <+: place := by
  induction levels generalizing place with
  | zero => exact List.prefix_rfl
  | succ levels inductionHypothesis =>
      exact (inductionHypothesis place.parent).trans (List.dropLast_prefix place)

/-- A directory of a sound tree whose way consists of names of entries. -/
structure Stands (tree : FileTree) (place : Path) : Prop where
  sound : tree.Sound
  isDirectory : tree.get? place = some .directory
  plain : ∀ name ∈ place, Spelling.IsPlain name
  whole : ∀ name ∈ place, name.contains null = false

section

variable {tree : FileTree} {place : Path}

theorem Stands.of_isPrefix (stands : Stands tree place) {upper : Path} (above : upper <+: place) :
    Stands tree upper where
  sound := stands.sound
  isDirectory := by
    obtain ⟨names, rfl⟩ := above
    have isDirectory := stands.isDirectory
    have sound := stands.sound
    clear stands
    induction names using List.reverseRecOn with
    | nil => rwa [List.append_nil] at isDirectory
    | append_singleton names last inductionHypothesis =>
        apply inductionHypothesis
        rw [← List.append_assoc] at isDirectory
        have higher := sound _ _ isDirectory
        rwa [Path.parent, List.dropLast_concat] at higher
  plain := fun name member => stands.plain name (above.subset member)
  whole := fun name member => stands.whole name (above.subset member)

theorem Stands.parent (stands : Stands tree place) : Stands tree place.parent :=
  stands.of_isPrefix (List.dropLast_prefix place)

theorem Stands.ancestor (stands : Stands tree place) (levels : Nat) :
    Stands tree (ancestor levels place) :=
  stands.of_isPrefix (ancestor_isPrefix levels place)

/-! ### Walks up and down -/

variable {followLast : Bool} {follow : Path → List Text → Except SystemError Place}
  {ended : Place}

/-- A walk that leads up comes to the directory above. -/
theorem walkWith_ascent (stands : Stands tree place) (levels : Nat) (rest : List Text) :
    tree.walkWith followLast follow place (List.replicate levels ['.', '.'] ++ rest) =
      tree.walkWith followLast follow (FileTree.ancestor levels place) rest := by
  induction levels generalizing place with
  | zero => rfl
  | succ levels inductionHypothesis =>
      rw [List.replicate_succ, List.cons_append, walkWith,
        if_neg (not_not_intro stands.isDirectory), if_neg (by decide), if_pos rfl]
      exact inductionHypothesis stands.parent

/-- A walk along names of directories comes to where they stand, unless a name is too long. -/
theorem walkWith_descent {here : Path} {names rest : List Text}
    (stands : Stands tree (here ++ names))
    (arrives : tree.walkWith followLast follow here (names ++ rest) = .ok ended) :
    tree.walkWith followLast follow (here ++ names) rest = .ok ended := by
  induction names generalizing here with
  | nil => rwa [List.append_nil]
  | cons name names inductionHypothesis =>
      have isHere : tree.get? here = some .directory :=
        (stands.of_isPrefix (List.prefix_append here _)).isDirectory
      rw [List.append_cons] at stands ⊢
      have isNext : tree.get? (here ++ [name]) = some .directory :=
        (stands.of_isPrefix (List.prefix_append _ names)).isDirectory
      have plain := stands.plain name (by simp)
      rw [List.cons_append, walkWith, if_neg (not_not_intro isHere), if_neg plain.busy,
        if_neg plain.notUp] at arrives
      split at arrives
      next => cases arrives
      next =>
        simp only [isNext] at arrives
        exact inductionHypothesis stands arrives

theorem walkFrom_ascent (stands : Stands tree place) (levels linksLeft : Nat) (rest : List Text) :
    tree.walkFrom followLast linksLeft place (List.replicate levels ['.', '.'] ++ rest) =
      tree.walkFrom followLast linksLeft (FileTree.ancestor levels place) rest := by
  cases linksLeft <;> exact walkWith_ascent stands levels rest

theorem walkFrom_descent {here : Path} {names rest : List Text} {linksLeft : Nat}
    (stands : Stands tree (here ++ names))
    (arrives : tree.walkFrom followLast linksLeft here (names ++ rest) = .ok ended) :
    tree.walkFrom followLast linksLeft (here ++ names) rest = .ok ended := by
  cases linksLeft <;> exact walkWith_descent stands arrives

/-! ### Written paths from the root and from the working directory -/

theorem walkWith_idle {here : Path} (isDirectory : tree.get? here = some .directory)
    (rest : List Text) :
    tree.walkWith followLast follow here ([] :: rest) =
      tree.walkWith followLast follow here rest := by
  rw [walkWith, if_neg (not_not_intro isDirectory), if_pos (by decide)]

theorem walkFrom_idle {here : Path} (isDirectory : tree.get? here = some .directory)
    (linksLeft : Nat) (rest : List Text) :
    tree.walkFrom followLast linksLeft here ([] :: rest) =
      tree.walkFrom followLast linksLeft here rest := by
  cases linksLeft <;> exact walkWith_idle isDirectory rest

/-- A walk from the root through a directory comes to where the rest of the path leads from
there. -/
theorem walk_root {workingDirectory : Spot} {names : List Text} (stands : Stands tree place)
    (plain : ∀ name ∈ names, Spelling.IsPlain name)
    (arrives : tree.walk workingDirectory followLast (Start.root.text (place ++ names)) =
      .ok ended) :
    tree.walkFrom followLast linkLimit place names = .ok ended := by
  have written : Start.root.text (place ++ names) = '/' :: Text.join ['/'] (place ++ names) := rfl
  obtain ⟨-, -, walked⟩ := walk_eq_ok_iff.mp arrives
  rw [written, Text.splitOn, if_pos rfl] at walked
  have fromRoot : tree.walkFrom followLast linkLimit []
      (Text.splitOn '/' (Text.join ['/'] (place ++ names))) = .ok ended :=
    (walkFrom_idle rfl linkLimit _).symm.trans walked
  have descent : tree.walkFrom followLast linkLimit [] (place ++ names) = .ok ended := by
    by_cases none : place ++ names = []
    · rw [none] at fromRoot ⊢
      exact (walkFrom_idle rfl linkLimit _).symm.trans fromRoot
    · rwa [Text.splitOn_join none] at fromRoot
      intro name member
      rcases List.mem_append.mp member with higher | lower
      · exact (stands.plain name higher).single
      · exact (plain name lower).single
  have below : Stands tree ([] ++ place) := stands
  exact walkFrom_descent below descent

/-- Where the path along some names leads, in terms of the directory that it starts from. -/
theorem walk_up (stands : Stands tree place) (levels : Nat) {names : List Text}
    (plain : ∀ name ∈ names, Spelling.IsPlain name) (some : names ≠ [])
    (short : Text.Utf8.size ((Start.up levels).text names) ≤ pathLimit)
    (arrives : tree.walkFrom followLast linkLimit (ancestor levels place) names = .ok ended) :
    tree.walk (Spot.at place) followLast ((Start.up levels).text names) = .ok ended := by
  have solid := (Start.up levels).solid_ascent plain
  have written : (Start.up levels).text names =
      Text.join ['/'] (List.replicate levels ['.', '.'] ++ names) := rfl
  have pieces : List.replicate levels ['.', '.'] ++ names ≠ [] :=
    List.append_ne_nil_of_right_ne_nil _ some
  have split : Text.splitOn '/' ((Start.up levels).text names) =
      List.replicate levels ['.', '.'] ++ names := by
    rw [written]
    exact Text.splitOn_join pieces fun component member => (solid component member).2
  have nonempty : (Start.up levels).text names ≠ [] := by
    intro nothing
    obtain ⟨c, ends, -⟩ := Spelling.getLast?_join_of_solid pieces solid
    rw [← written, nothing] at ends
    cases ends
  refine walk_eq_ok_iff.mpr ⟨nonempty, short, ?_⟩
  rw [Start.isAbsolute_text_up levels plain, if_neg Bool.false_ne_true, split]
  obtain ⟨first, rest, cons⟩ := List.exists_cons_of_ne_nil pieces
  rw [← walkFrom_ascent stands levels, cons] at arrives
  rw [cons]
  exact arrives

/-! ### Links -/

theorem linkAt?_eq_some_iff {workingDirectory : Spot} {path target : Text} :
    tree.linkAt? workingDirectory path = some target ↔
      ∃ spot, tree.walk workingDirectory false path = .ok (.taken spot) ∧
        tree.entryAt? spot = some (.link target) := by
  unfold linkAt? find
  cases tree.walk workingDirectory false path with
  | error error => simp
  | ok ended =>
      cases ended with
      | free own asDirectory => simp
      | taken spot =>
          rcases present : tree.entryAt? spot with _ | entry
          · simp [present]
          · cases entry <;> simp [present]

/-- On the way to a directory is no link. -/
theorem linkAt?_of_stands {workingDirectory : Spot} (stands : Stands tree place) :
    tree.linkAt? workingDirectory (Start.root.text place) = none := by
  rw [Option.eq_none_iff_forall_ne_some]
  intro target isLink
  obtain ⟨spot, arrives, present⟩ := linkAt?_eq_some_iff.mp isLink
  rw [← List.append_nil place] at arrives
  have ends := walk_root stands (List.forall_mem_nil _) arrives
  obtain rfl : Spot.at place = spot := Place.taken.inj (Except.ok.inj ends)
  have isDirectory : tree.entryAt? (Spot.at place) = some .directory := stands.isDirectory
  rw [isDirectory] at present
  cases present

/-- What is no link for a path from a working directory is none for the path from the root. -/
theorem linkAt?_root_of_up (stands : Stands tree place) {levels : Nat} {names : List Text}
    (plain : ∀ name ∈ names, Spelling.IsPlain name) (some : names ≠ [])
    (short : Text.Utf8.size ((Start.up levels).text names) ≤ pathLimit)
    (noLink : tree.linkAt? (Spot.at place) ((Start.up levels).text names) = none) :
    tree.linkAt? (Spot.at place) (Start.root.text (FileTree.ancestor levels place ++ names)) =
      none := by
  rw [Option.eq_none_iff_forall_ne_some] at noLink ⊢
  intro target isLink
  obtain ⟨spot, arrives, present⟩ := linkAt?_eq_some_iff.mp isLink
  have ends := walk_root (stands.ancestor levels) plain arrives
  exact noLink target (linkAt?_eq_some_iff.mpr ⟨spot, walk_up stands levels plain some short ends,
    present⟩)

/-- A way without links from a working directory is one from the root. -/
theorem IsLinkless.of_up {levels : Nat} {names : List Text} (stands : Stands tree place)
    (linkless : IsLinkless tree (Spot.at place) (.up levels) names)
    (short : Text.Utf8.size ((Start.up levels).text names) ≤ pathLimit) :
    IsLinkless tree (Spot.at place) .root (FileTree.ancestor levels place ++ names) where
  plain := by
    intro name member
    rcases List.mem_append.mp member with higher | lower
    · exact (stands.ancestor levels).plain name higher
    · exact linkless.plain name lower
  whole := by
    intro name member
    rcases List.mem_append.mp member with higher | lower
    · exact (stands.ancestor levels).whole name higher
    · exact linkless.whole name lower
  noLink := by
    intro upper above some
    rcases List.prefix_or_prefix_of_prefix above (List.prefix_append _ names) with higher | lower
    · exact linkAt?_of_stands ((stands.ancestor levels).of_isPrefix higher)
    · obtain ⟨first, rfl⟩ := lower
      have start : first <+: names := (List.prefix_append_right_inj _).mp above
      by_cases none : first = []
      · rw [none, List.append_nil]
        exact linkAt?_of_stands (stands.ancestor levels)
      · have shorter : (Start.up levels).text first <+: (Start.up levels).text names :=
          Text.join_isPrefix ['/'] ((List.prefix_append_right_inj _).mpr start)
        refine linkAt?_root_of_up stands (linkless.of_isPrefix start).plain none ?_
          (linkless.noLink first start none)
        obtain ⟨rest, whole⟩ := shorter
        rw [← whole, size_append] at short
        omega

/-! ### Normal forms -/

/-- Leading up takes the last names away. -/
theorem foldl_resolveComponent_ascent (plain : ∀ name ∈ place, Spelling.IsPlain name)
    (levels : Nat) :
    (List.replicate levels ['.', '.']).foldl (Spelling.resolveComponent true) place.reverse =
      (FileTree.ancestor levels place).reverse := by
  induction levels generalizing place with
  | zero => rfl
  | succ levels inductionHypothesis =>
      have higher : ∀ name ∈ place.parent, Spelling.IsPlain name :=
        fun name member => plain name (List.dropLast_subset _ member)
      have up : Spelling.resolveComponent true place.reverse ['.', '.'] = place.parent.reverse := by
        rcases List.eq_nil_or_concat place with rfl | ⟨upper, last, rfl⟩
        · rfl
        · rw [List.concat_eq_append] at plain ⊢
          have notUp := (plain last (by simp)).notUp
          simp [Spelling.resolveComponent, Path.parent, notUp]
      rw [List.replicate_succ, List.foldl_cons, up, inductionHypothesis higher]
      rfl

/-- Joined components are resolved one after the other. -/
theorem foldl_splitOn_join {components : List Text}
    (solid : ∀ c ∈ components, c ≠ [] ∧ '/' ∉ c) (resolved : List Text) :
    (Text.splitOn '/' (Text.join ['/'] components)).foldl (Spelling.resolveComponent true)
        resolved =
      components.foldl (Spelling.resolveComponent true) resolved := by
  by_cases none : components = []
  · rw [none]
    rfl
  · rw [Text.splitOn_join none fun c member => (solid c member).2]

/-- A relative path behind a place: one slash at the beginning, and the components of the place are
resolved before those of the path. -/
theorem exists_written_append (plain : ∀ name ∈ place, Spelling.IsPlain name)
    {components : List Text} (solid : ∀ c ∈ components, c ≠ [] ∧ '/' ∉ c) :
    ∃ written, Spelling.append place.text (Text.join ['/'] components) = ['/'] ++ written ∧
      written.head? ≠ some '/' ∧
      (Text.splitOn '/' written).foldl (Spelling.resolveComponent true) [] =
        components.foldl (Spelling.resolveComponent true) place.reverse := by
  have placeSolid : ∀ c ∈ place, c ≠ [] ∧ '/' ∉ c := fun c member => (plain c member).solid
  have relative := Spelling.isAbsolute_join solid
  by_cases none : place = []
  · rw [none, Spelling.append, relative]
    exact ⟨_, rfl, Spelling.head?_join_ne_slash solid, foldl_splitOn_join solid []⟩
  · obtain ⟨c, ends, other⟩ := Spelling.getLast?_join_of_solid none placeSolid
    have wholeEnds : place.text.getLast? = some c := by
      show (['/'] ++ Text.join ['/'] place).getLast? = some c
      rw [List.getLast?_append, ends]
      rfl
    rw [Spelling.append_of_getLast? wholeEnds other relative]
    refine ⟨Text.join ['/'] place ++ '/' :: Text.join ['/'] components, rfl, ?_, ?_⟩
    · rw [List.head?_append_of_ne_nil]
      · exact Spelling.head?_join_ne_slash placeSolid
      · intro nothing
        rw [nothing] at ends
        cases ends
    · rw [Text.splitOn_append, List.foldl_append, foldl_splitOn_join placeSolid,
        Spelling.foldl_resolveComponent plain, List.append_nil, foldl_splitOn_join solid]

/-- How a path from a working directory is written from the root. -/
theorem absolute_text_up (plain : ∀ name ∈ place, Spelling.IsPlain name) {levels : Nat}
    {names : List Text} (namesPlain : ∀ name ∈ names, Spelling.IsPlain name) :
    Spelling.absolute place.text ((Start.up levels).text names) =
      Start.root.text (FileTree.ancestor levels place ++ names) := by
  obtain ⟨written, appended, single, split⟩ :=
    exists_written_append plain ((Start.up levels).solid_ascent namesPlain)
  have root : Spelling.root (['/'] ++ written) = ['/'] :=
    Spelling.root_append (.inr (.inl rfl)) single
  have resolved : (Text.splitOn '/' (['/'] ++ written)).foldl (Spelling.resolveComponent true) [] =
      (FileTree.ancestor levels place ++ names).reverse := by
    show (Text.splitOn '/' written).foldl (Spelling.resolveComponent true) [] = _
    rw [split, Start.ascent, List.foldl_append, foldl_resolveComponent_ascent plain,
      Spelling.foldl_resolveComponent namesPlain, List.reverse_append]
  have normal := Spelling.normal_of_isRoot (by rw [root]; exact .inl rfl) resolved
  rw [root] at normal
  show Spelling.normal (Spelling.append place.text
    (Text.join ['/'] ((Start.up levels).ascent ++ names))) = _
  rw [appended, normal]
  rfl

end

end FileTree

end CueWatch
