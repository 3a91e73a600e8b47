import CueWatch.Proofs.Path.Ancestry

/-!
Contract: what the resolution of links leaves of a path.

Owns:
- `Start`, the root or some levels above the working directory, and how paths from a start are
  written, put together and cut while they are resolved;
- `IsLinkless`, that nothing on the way along some names from a start is a link;
- that a resolution which finishes ends in such a way, and that such a way from the root is resolved
  to itself.

Does not own: the working directory that a relative way starts from (`Proofs.FileTree.Relative`).
-/

namespace CueWatch.FileTree

/-! ### Names from a start -/

/-- Where a path starts while it is resolved: at the root, or some levels above the working
directory. -/
inductive Start where
  | root
  | up (levels : Nat)

namespace Start

/-- The components that lead up from the working directory. -/
def ascent : Start → List Text
  | .root => []
  | .up levels => List.replicate levels ['.', '.']

def slash : Start → Text
  | .root => ['/']
  | .up _ => []

/-- How the path along some names is written. The working directory itself is no text. -/
def text (start : Start) (names : List Text) : Text :=
  start.slash ++ Text.join ['/'] (start.ascent ++ names)

theorem isStart_slash (start : Start) : start.slash = [] ∨ Spelling.IsRoot start.slash := by
  cases start with
  | root => exact .inr (.inl rfl)
  | up levels => exact .inl rfl

section

variable (start : Start) {names : List Text}

theorem solid_ascent (plain : ∀ name ∈ names, Spelling.IsPlain name) :
    ∀ component ∈ start.ascent ++ names, component ≠ [] ∧ '/' ∉ component := by
  intro component member
  rcases List.mem_append.mp member with rising | isName
  · cases start with
    | root => cases rising
    | up levels =>
        rw [List.eq_of_mem_replicate rising]
        decide
  · exact (plain component isName).solid

theorem append_slash_join {components : List Text}
    (solid : ∀ c ∈ components, c ≠ [] ∧ '/' ∉ c) {next : Text} (single : '/' ∉ next) :
    Spelling.append (start.slash ++ Text.join ['/'] components) next =
      start.slash ++ Text.join ['/'] (components ++ [next]) := by
  have relative := Spelling.isAbsolute_of_notMem single
  by_cases none : components = []
  · rw [none, Spelling.append, relative]
    cases start <;> rfl
  · obtain ⟨c, ends, other⟩ := Spelling.getLast?_join_of_solid none solid
    have wholeEnds : (start.slash ++ Text.join ['/'] components).getLast? = some c := by
      rw [List.getLast?_append, ends]
      rfl
    rw [Spelling.append_of_getLast? wholeEnds other relative, Text.join_concat _ none]
    simp only [List.append_assoc, List.singleton_append]

theorem append_text (plain : ∀ name ∈ names, Spelling.IsPlain name) {name : Text}
    (single : '/' ∉ name) :
    Spelling.append (start.text names) name = start.text (names ++ [name]) := by
  rw [text, append_slash_join _ (start.solid_ascent plain) single, text, List.append_assoc]

/-- The last component of a path is its name. -/
theorem name_slash_join (components : List Text) {last : Text} (single : '/' ∉ last) :
    Spelling.name (start.slash ++ Text.join ['/'] (components ++ [last])) = last := by
  by_cases none : components = []
  · rw [none]
    cases start with
    | root => exact Spelling.name_append [] single
    | up levels =>
        have named : ∀ c ∈ last.reverse, decide (c ≠ '/') = true := by
          intro c member
          rw [decide_eq_true_eq]
          rintro rfl
          exact single (List.mem_reverse.mp member)
        show (last.reverse.takeWhile fun c => decide (c ≠ '/')).reverse = last
        rw [← List.append_nil last.reverse, List.takeWhile_append_of_pos named]
        simp
  · rw [Text.join_concat _ none, List.append_assoc, List.singleton_append, ← List.append_assoc]
    exact Spelling.name_append _ single

theorem above_concat (plain : ∀ name ∈ names, Spelling.IsPlain name) {last : Text}
    (isPlain : Spelling.IsPlain last) :
    Spelling.above (start.text (names ++ [last])) = start.text names := by
  have named := start.name_slash_join (start.ascent ++ names) isPlain.single
  have written : start.text (names ++ [last]) =
      start.slash ++ Text.join ['/'] (start.ascent ++ names ++ [last]) := by
    rw [text, List.append_assoc]
  have nonempty : ¬ (start.text (names ++ [last])).isEmpty = true := by
    rw [List.isEmpty_iff, written]
    intro nothing
    rw [nothing] at named
    exact isPlain.nonempty named.symm
  rw [Spelling.above, if_neg nonempty, written, named, if_neg isPlain.notUp]
  exact Spelling.directory_concat start.isStart_slash (start.solid_ascent plain) isPlain.single

end

theorem isAbsolute_text_up (levels : Nat) {names : List Text}
    (plain : ∀ name ∈ names, Spelling.IsPlain name) :
    Spelling.isAbsolute ((up levels).text names) = false :=
  Spelling.isAbsolute_join ((up levels).solid_ascent plain)

/-! ### Above a start -/

theorem text_up_succ (levels : Nat) :
    (up (levels + 1)).text [] =
      (up levels).slash ++ Text.join ['/'] ((up levels).ascent ++ [['.', '.']]) := by
  rw [text, List.append_nil, ascent, List.replicate_succ']
  rfl

theorem solid_ascent_up (levels : Nat) : ∀ c ∈ (up levels).ascent, c ≠ [] ∧ '/' ∉ c :=
  fun c member =>
    (up levels).solid_ascent (List.forall_mem_nil _) c (List.mem_append_left _ member)

theorem append_up (levels : Nat) :
    Spelling.append ((up levels).text []) ['.', '.'] = (up (levels + 1)).text [] := by
  rw [text, List.append_nil, append_slash_join _ (solid_ascent_up levels) (by decide), text_up_succ]

theorem directory_text_up (levels : Nat) :
    Spelling.directory ((up (levels + 1)).text []) = (up levels).text [] := by
  have up : '/' ∉ ['.', '.'] := by decide
  rw [text_up_succ, Spelling.directory_concat (isStart_slash _) (solid_ascent_up levels) up, text,
    List.append_nil]

/-- Above the root is the root, and above another start is one more level up. -/
theorem above_text_nil (start : Start) :
    ∃ higher : Start, (start = root → higher = root) ∧
      Spelling.above (start.text []) = higher.text [] := by
  rcases start with _ | _ | levels
  · exact ⟨root, id, rfl⟩
  · exact ⟨up 1, nofun, rfl⟩
  · have named : Spelling.name ((up (levels + 1)).text []) = ['.', '.'] := by
      rw [text_up_succ]
      exact name_slash_join _ _ (by decide)
    have nonempty : ¬ ((up (levels + 1)).text []).isEmpty = true := by
      rw [List.isEmpty_iff]
      intro nothing
      rw [nothing] at named
      cases named
    refine ⟨up (levels + 2), nofun, ?_⟩
    rw [Spelling.above, if_neg nonempty, if_pos named, directory_text_up, append_up, append_up]

end Start

/-! ### Ways without links -/

section

variable {tree : FileTree} {workingDirectory : Spot}

/-- The names are those of entries, and nothing on the way along them is a link. -/
structure IsLinkless (tree : FileTree) (workingDirectory : Spot) (start : Start)
    (names : List Text) : Prop where
  plain : ∀ name ∈ names, Spelling.IsPlain name
  whole : ∀ name ∈ names, name.contains null = false
  noLink : ∀ upper, upper <+: names → upper ≠ [] →
    tree.linkAt? workingDirectory (start.text upper) = none

theorem isLinkless_nil (start : Start) : IsLinkless tree workingDirectory start [] where
  plain := nofun
  whole := nofun
  noLink := fun _ above some => absurd (List.prefix_nil.mp above) some

section

variable {start : Start} {names : List Text}

theorem IsLinkless.of_isPrefix {upper : List Text}
    (linkless : IsLinkless tree workingDirectory start names) (above : upper <+: names) :
    IsLinkless tree workingDirectory start upper where
  plain := fun name member => linkless.plain name (above.subset member)
  whole := fun name member => linkless.whole name (above.subset member)
  noLink := fun further higher some => linkless.noLink further (higher.trans above) some

theorem IsLinkless.concat {name : Text} (linkless : IsLinkless tree workingDirectory start names)
    (plain : Spelling.IsPlain name) (whole : name.contains null = false)
    (noLink : tree.linkAt? workingDirectory (start.text (names ++ [name])) = none) :
    IsLinkless tree workingDirectory start (names ++ [name]) where
  plain := by
    intro other member
    rcases List.mem_append.mp member with earlier | last
    · exact linkless.plain other earlier
    · rwa [List.mem_singleton.mp last]
  whole := by
    intro other member
    rcases List.mem_append.mp member with earlier | last
    · exact linkless.whole other earlier
    · rwa [List.mem_singleton.mp last]
  noLink := by
    intro upper above some
    rcases List.prefix_concat_iff.mp above with rfl | higher
    · exact noLink
    · exact linkless.noLink upper higher some

end

/-- A written path without links on its way; if it is known to be rooted, it starts at the root. -/
def IsFinal (tree : FileTree) (workingDirectory : Spot) (rooted : Prop) (path : Text) : Prop :=
  ∃ start names, (rooted → start = .root) ∧ IsLinkless tree workingDirectory start names ∧
    path = start.text names

variable {rooted : Prop}

theorem isFinal_root : IsFinal tree workingDirectory rooted ['/'] :=
  ⟨.root, [], fun _ => rfl, isLinkless_nil .root, rfl⟩

theorem isFinal_nil (relative : ¬ rooted) : IsFinal tree workingDirectory rooted [] :=
  ⟨.up 0, [], fun isRooted => absurd isRooted relative, isLinkless_nil (.up 0), rfl⟩

theorem IsFinal.above {path : Text} (final : IsFinal tree workingDirectory rooted path) :
    IsFinal tree workingDirectory rooted (Spelling.above path) := by
  obtain ⟨start, names, isRoot, linkless, rfl⟩ := final
  rcases List.eq_nil_or_concat names with rfl | ⟨upper, last, rfl⟩
  · obtain ⟨higher, stays, same⟩ := start.above_text_nil
    exact ⟨higher, [], fun isRooted => stays (isRoot isRooted), isLinkless_nil higher, same⟩
  · rw [List.concat_eq_append] at linkless ⊢
    have upperLinkless := linkless.of_isPrefix (List.prefix_append upper [last])
    refine ⟨start, upper, isRoot, upperLinkless, ?_⟩
    exact start.above_concat upperLinkless.plain (linkless.plain last (by simp))

theorem IsFinal.append {path component : Text} (final : IsFinal tree workingDirectory rooted path)
    (plain : Spelling.IsPlain component) (whole : component.contains null = false)
    (noLink : tree.linkAt? workingDirectory (Spelling.append path component) = none) :
    IsFinal tree workingDirectory rooted (Spelling.append path component) := by
  obtain ⟨start, names, isRoot, linkless, rfl⟩ := final
  rw [start.append_text linkless.plain plain.single] at noLink ⊢
  exact ⟨start, names ++ [component], isRoot, linkless.concat plain whole noLink, rfl⟩

/-- The links that have been followed to their ends lead to paths without links. -/
def KnowsFinal (tree : FileTree) (workingDirectory : Spot) (rooted : Prop) (known : Known) : Prop :=
  ∀ link reached, Keyed.find? link known = some (some reached) →
    IsFinal tree workingDirectory rooted reached

theorem KnowsFinal.put {known : Known} (knows : KnowsFinal tree workingDirectory rooted known)
    (link : Text) {path? : Option Text}
    (final : ∀ path, path? = some path → IsFinal tree workingDirectory rooted path) :
    KnowsFinal tree workingDirectory rooted (Keyed.put link path? known) := by
  intro other reached found
  by_cases same : link = other
  · rw [same, Keyed.find?_put_self] at found
    exact final reached (Option.some.inj found)
  · rw [Keyed.find?_put_of_ne same] at found
    exact knows other reached found

/-- From where no link is behind, what follows components ends, if it finishes, where no link is
behind. -/
def EndsFinal (tree : FileTree) (workingDirectory : Spot) (rooted : Prop)
    (follow : Known → Text → List Text → Except Failure Resolution) : Prop :=
  ∀ known path components, KnowsFinal tree workingDirectory rooted known →
    IsFinal tree workingDirectory rooted path → (∀ component ∈ components, '/' ∉ component) →
    ∀ resolution, follow known path components = .ok resolution → resolution.isFinished = true →
      IsFinal tree workingDirectory rooted resolution.path ∧
        KnowsFinal tree workingDirectory rooted resolution.known

/-- A component that says something and does not lead up is the name of an entry. -/
theorem isPlain_of_busy {component : Text} (busy : ¬ Pathname.isIdle component = true)
    (notUp : component ≠ ['.', '.']) (single : '/' ∉ component) : Spelling.IsPlain component := by
  simp only [Pathname.isIdle, Bool.or_eq_true, decide_eq_true_eq, not_or] at busy
  exact ⟨busy.1, busy.2, notUp, single⟩

theorem endsFinal_resolveWith
    {follow : Known → Text → List Text → Except Failure Resolution}
    (follows : EndsFinal tree workingDirectory rooted follow) :
    EndsFinal tree workingDirectory rooted (tree.resolveWith workingDirectory follow) := by
  intro known path components
  fun_induction resolveWith tree workingDirectory follow known path components with
  | case1 known path =>
      intro knows final _ resolution resolved _
      obtain rfl := Except.ok.inj resolved
      exact ⟨final, knows⟩
  | case2 known path component rest idle inductionHypothesis =>
      intro knows final single
      exact inductionHypothesis knows final (List.forall_mem_cons.mp single).2
  | case3 known path rest busy inductionHypothesis =>
      intro knows final single
      exact inductionHypothesis knows final.above (List.forall_mem_cons.mp single).2
  | case4 => intro _ _ _ resolution resolved; cases resolved
  | case5 known path component rest busy notUp whole next noLink inductionHypothesis =>
      intro knows final single
      rw [List.forall_mem_cons] at single
      refine inductionHypothesis knows ?_ single.2
      exact final.append (isPlain_of_busy busy notUp single.1) (by simpa using whole) noLink
  | case6 known path component rest _ _ _ next target _ reached found inductionHypothesis =>
      intro knows _ single
      exact inductionHypothesis knows (knows next reached found) (List.forall_mem_cons.mp single).2
  | case7 =>
      intro _ _ _ resolution resolved finished
      obtain rfl := Except.ok.inj resolved
      cases finished
  | case8 => intro _ _ _ resolution resolved; cases resolved
  | case9 known path component rest _ _ _ next target _ _ reached followed finished
      inductionHypothesis =>
      intro knows final single
      have start : IsFinal tree workingDirectory rooted
          (if Spelling.isAbsolute target then ['/'] else path) := by
        split
        · exact isFinal_root
        · exact final
      have begun : KnowsFinal tree workingDirectory rooted (Keyed.put next none known) :=
        knows.put next nofun
      obtain ⟨ends, knowsMore⟩ := follows _ _ _ begun start
        (fun _ => Text.notMem_of_mem_splitOn) reached followed finished
      refine inductionHypothesis (knowsMore.put next ?_) ends (List.forall_mem_cons.mp single).2
      intro path same
      rwa [← Option.some.inj same]
  | case10 =>
      intro _ _ _ resolution resolved finished
      obtain rfl := Except.ok.inj resolved
      cases finished

theorem endsFinal_resolveFrom (nesting : Nat) :
    EndsFinal tree workingDirectory rooted (tree.resolveFrom workingDirectory nesting) := by
  induction nesting with
  | zero =>
      apply endsFinal_resolveWith
      intro known path components _ _ _ resolution resolved
      cases resolved
  | succ nesting inductionHypothesis => exact endsFinal_resolveWith inductionHypothesis

/-! ### Ways from the root without links are resolved to themselves -/

theorem resolveWith_of_linkless
    {follow : Known → Text → List Text → Except Failure Resolution} (known : Known) {start : Start}
    {upper rest : List Text} (linkless : IsLinkless tree workingDirectory start (upper ++ rest)) :
    tree.resolveWith workingDirectory follow known (start.text upper) rest =
      .ok ⟨start.text (upper ++ rest), true, known⟩ := by
  induction rest generalizing upper with
  | nil => rw [List.append_nil, resolveWith]
  | cons name rest inductionHypothesis =>
      have plain := linkless.plain name (by simp)
      have above : upper ++ [name] <+: upper ++ name :: rest := by simp
      have upperPlain : ∀ other ∈ upper, Spelling.IsPlain other :=
        fun other member => linkless.plain other (List.mem_append_left _ member)
      have noLink := linkless.noLink _ above (by simp)
      rw [← start.append_text upperPlain plain.single] at noLink
      rw [resolveWith, if_neg plain.busy, if_neg plain.notUp, linkless.whole name (by simp),
        if_neg Bool.false_ne_true]
      simp only [noLink]
      rw [start.append_text upperPlain plain.single, inductionHypothesis (by simpa using linkless)]
      simp

theorem resolveWith_idle
    {follow : Known → Text → List Text → Except Failure Resolution} (known : Known) (path : Text)
    (rest : List Text) :
    tree.resolveWith workingDirectory follow known path ([] :: rest) =
      tree.resolveWith workingDirectory follow known path rest := by
  rw [resolveWith, if_pos (by decide)]

theorem resolveWith_text_of_linkless
    {follow : Known → Text → List Text → Except Failure Resolution} (known : Known)
    {names : List Text} (linkless : IsLinkless tree workingDirectory .root names) :
    tree.resolveWith workingDirectory follow known ['/']
        (Text.splitOn '/' (Start.root.text names)) =
      .ok ⟨Start.root.text names, true, known⟩ := by
  have written : Start.root.text names = '/' :: Text.join ['/'] names := rfl
  rw [written, Text.splitOn, if_pos rfl, resolveWith_idle]
  by_cases none : names = []
  · rw [none]
    exact resolveWith_idle known ['/'] []
  · rw [Text.splitOn_join none fun name member => (linkless.plain name member).single, ← written]
    have whole : IsLinkless tree workingDirectory .root ([] ++ names) := linkless
    exact resolveWith_of_linkless known whole

theorem resolve_of_linkless {names : List Text}
    (linkless : IsLinkless tree workingDirectory .root names) :
    tree.resolve workingDirectory (Start.root.text names) = .ok (Start.root.text names) := by
  have rooted : Spelling.isAbsolute (Start.root.text names) = true := rfl
  rw [resolve, rooted, if_pos rfl]
  -- The bound on the nesting does not matter where no link is followed.
  show (tree.resolveWith workingDirectory (tree.resolveFrom workingDirectory 984) [] ['/']
    (Text.splitOn '/' (Start.root.text names))).map Resolution.path = _
  rw [resolveWith_text_of_linkless [] linkless]
  rfl

end

end CueWatch.FileTree
