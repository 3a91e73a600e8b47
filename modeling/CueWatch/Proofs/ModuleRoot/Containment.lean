import CueWatch.Proofs.ModuleRoot.Ladder
import CueWatch.Proofs.Path.Ancestry

/-!
Contract: the module root of a file lies between its directory and the boundary, both without links.

Owns:
- `Marked` and `Unmarked`, the directories whose names can be learned, with and without a marker;
- `Contained`, what a climb between two paths without links finds, lists and misses, by components;
- `startOf` and `limitOf`, where the search for a file's root begins and how far it may go;
- that the root is the nearest marked directory at or above the start, and that nothing above a
  boundary that is itself at or above the start is looked at.

Does not own: searches between paths as they are written (`Proofs.ModuleRoot.Ladder`).
-/

namespace CueWatch.ModuleRoot

/-! ### Directories with and without a marker -/

/-- A directory whose names can be learned, with a marker among them. -/
def Marked (lister : Lister) (directory : Text) : Prop :=
  ∃ names, lister directory = .ok names ∧ ∃ name ∈ names, marker <:+ name

/-- A directory whose names can be learned, without a marker among them. -/
def Unmarked (lister : Lister) (directory : Text) : Prop :=
  ∃ names, lister directory = .ok names ∧ ∀ name ∈ names, ¬ marker <:+ name

theorem verdict_eq_none_iff {lister : Lister} {directory : Text} :
    verdict lister directory = none ↔ Unmarked lister directory := by
  rw [verdict, Unmarked]
  cases lister directory with
  | error cause => simp
  | ok names => simp

theorem verdict_eq_ok_iff {lister : Lister} {directory root : Text} :
    verdict lister directory = some (.ok root) ↔ root = directory ∧ Marked lister directory := by
  rw [verdict, Marked]
  cases lister directory with
  | error cause => simp
  | ok names => simp [and_comm, eq_comm]

/-- A directory that cannot be listed is no reason to say that there is no root. -/
theorem verdict_ne_rootNotFound (lister : Lister) (directory boundary start : Text) :
    verdict lister directory ≠ some (.error (.rootNotFound boundary start)) := by
  rw [verdict]
  cases lister directory with
  | error cause =>
      intro same
      have failure := Except.error.inj (Option.some.inj same)
      split at failure
      next interrupts =>
        rw [failure] at interrupts
        cases interrupts
      next => cases failure
  | ok names =>
      dsimp only
      split
      · rintro ⟨⟩
      · rintro ⟨⟩

/-! ### Climbs between paths without links -/

/-- A climb from `current` that keeps to the paths at or above it, and to those at or below the
boundary if that is one of them. What it finds is the nearest marked directory, and it finds none
exactly if there is no marker up to the boundary. -/
structure Contained (lister : Lister) (limit current : Pathname) (search : Search) : Prop where
  listed : ∀ path ∈ search.listed, ∃ place : Pathname,
    path = place.text ∧ place.IsAtOrAbove current ∧
      (limit.IsAtOrAbove current → limit.IsAtOrAbove place)
  found : ∀ root, search.outcome = .ok root → ∃ place : Pathname,
    root = place.text ∧ place.IsAtOrAbove current ∧
      (limit.IsAtOrAbove current → limit.IsAtOrAbove place) ∧ Marked lister root ∧
      ∀ between : Pathname, between.IsAtOrAbove current → place.IsAtOrAbove between →
        between ≠ place → Unmarked lister between.text
  missed : limit.IsAtOrAbove current →
    ((∃ boundary start, search.outcome = .error (.rootNotFound boundary start)) ↔
      ∀ place : Pathname, limit.IsAtOrAbove place → place.IsAtOrAbove current →
        Unmarked lister place.text)

section Climb

variable {lister : Lister} {limit current : Pathname}

theorem contained_of_decisive {outcome : Except Failure Text} (limit : Pathname)
    (decides : verdict lister current.text = some outcome) {search : Search}
    (found : search.outcome = outcome) (alone : search.listed = [current.text]) :
    Contained lister limit current search where
  listed := by
    intro path member
    rw [alone, List.mem_singleton] at member
    exact ⟨current, member, .refl current, id⟩
  found := by
    intro root isFound
    rw [found] at isFound
    rw [isFound, verdict_eq_ok_iff] at decides
    obtain ⟨rfl, marked⟩ := decides
    refine ⟨current, rfl, .refl current, id, marked, fun between below above other => ?_⟩
    exact absurd (below.antisymm above) other
  missed := by
    intro within
    constructor
    · rintro ⟨boundary, start, isMissed⟩
      rw [← found, isMissed] at decides
      exact absurd decides (verdict_ne_rootNotFound lister _ boundary start)
    · intro unmarked
      have idle := verdict_eq_none_iff.mpr (unmarked current within (.refl current))
      rw [idle] at decides
      cases decides

theorem contained_of_idle_top (idle : verdict lister current.text = none)
    (top : limit.IsAtOrAbove current → limit = current) {search : Search}
    {boundary start : Text} (missed : search.outcome = .error (.rootNotFound boundary start))
    (alone : search.listed = [current.text]) :
    Contained lister limit current search where
  listed := by
    intro path member
    rw [alone, List.mem_singleton] at member
    exact ⟨current, member, .refl current, id⟩
  found := by
    intro root isFound
    rw [missed] at isFound
    cases isFound
  missed := by
    intro within
    refine iff_of_true ⟨boundary, start, missed⟩ fun place below above => ?_
    obtain rfl := top within
    rw [above.antisymm below]
    exact verdict_eq_none_iff.mp idle

/-- Above an undecided directory below the boundary the climb goes on. -/
theorem Contained.after (idle : verdict lister current.text = none)
    (top : limit.IsAtOrAbove current → limit.IsAtOrAbove current.parent) {search : Search}
    (above : Contained lister limit current.parent search) :
    Contained lister limit current (search.after current.text) where
  listed := by
    intro path member
    rcases List.mem_cons.mp member with rfl | later
    · exact ⟨current, rfl, .refl current, id⟩
    · obtain ⟨place, rfl, upper, within⟩ := above.listed path later
      exact ⟨place, rfl, upper.trans (Pathname.parent_isAtOrAbove current),
        fun limited => within (top limited)⟩
  found := by
    intro root isFound
    obtain ⟨place, rfl, upper, within, marked, nearest⟩ := above.found root isFound
    refine ⟨place, rfl, upper.trans (Pathname.parent_isAtOrAbove current),
      fun limited => within (top limited), marked, fun between below isAbove other => ?_⟩
    rcases Pathname.isAtOrAbove_iff.mp below with rfl | higher
    · exact verdict_eq_none_iff.mp idle
    · exact nearest between higher isAbove other
  missed := by
    intro limited
    refine Iff.trans (above.missed (top limited)) ?_
    constructor
    · intro unmarked place within below
      rcases Pathname.isAtOrAbove_iff.mp below with rfl | higher
      · exact verdict_eq_none_iff.mp idle
      · exact unmarked place within higher
    · intro unmarked place within below
      exact unmarked place within (below.trans (Pathname.parent_isAtOrAbove current))

/-- Where the way up from a canonical path ends: at the boundary and at the root. -/
theorem isTop_text_iff (limited : limit.IsCanonical) (canonical : current.IsCanonical) :
    IsTop limit.text current.text ↔ current = limit ∨ current.parts = [] := by
  rw [IsTop, canonical.directory_text]
  refine or_congr ⟨fun same => canonical.text_inj limited same, fun same => by rw [same]⟩ ?_
  constructor
  · intro same
    have own := canonical.parent.text_inj canonical same
    by_contra below
    exact Pathname.parent_ne below own
  · intro atRoot
    rw [Pathname.parent_of_parts_nil atRoot]

theorem contained_climb (lister : Lister) (start : Text) (limited : limit.IsCanonical)
    (canonical : current.IsCanonical) :
    Contained lister limit current (climb lister limit.text start current.text) := by
  -- Each step up leads to the parent; the root is the last.
  induction current using Pathname.parent_induction with
  | top current atRoot =>
      cases decides : verdict lister current.text with
      | some outcome =>
          obtain ⟨found, alone, -⟩ := climb_of_decisive limit.text start decides
          exact contained_of_decisive limit decides found alone
      | none =>
          rw [climb_of_idle_top decides ((isTop_text_iff limited canonical).mpr (.inr atRoot))]
          refine contained_of_idle_top decides (fun within => ?_) rfl rfl
          exact within.eq_of_parts_nil atRoot
  | below current below inductionHypothesis =>
      cases decides : verdict lister current.text with
      | some outcome =>
          obtain ⟨found, alone, -⟩ := climb_of_decisive limit.text start decides
          exact contained_of_decisive limit decides found alone
      | none =>
          by_cases atLimit : current = limit
          · rw [climb_of_idle_top decides ((isTop_text_iff limited canonical).mpr (.inl atLimit))]
            exact contained_of_idle_top decides (fun _ => atLimit.symm) rfl rfl
          · have notTop : ¬ IsTop limit.text current.text := by
              rw [isTop_text_iff limited canonical, not_or]
              exact ⟨atLimit, below⟩
            rw [climb_of_idle_below decides notTop, canonical.directory_text]
            refine (inductionHypothesis canonical.parent).after decides fun within => ?_
            rcases Pathname.isAtOrAbove_iff.mp within with same | higher
            · exact absurd same.symm atLimit
            · exact higher

end Climb

/-! ### The search for the root of a file -/

/-- Where the search for the root of a file begins: the directory of the file, without links. -/
def startOf (file : Text) (host : Host) : Except Failure Pathname :=
  match directoryOf file host with
  | .error failure => .error failure
  | .ok directory => (host.canonical directory).map Pathname.ofText

/-- How far the search for a module root may go: the boundary in the settings, without links. -/
def limitOf (settings : Settings.Store) (workspaceFolder : Option Text) (host : Host) :
    Except Failure Pathname :=
  match boundary settings workspaceFolder host with
  | .error failure => .error failure
  | .ok directory => (host.canonical directory).map Pathname.ofText

theorem map_ofText_canonical_eq_ok {path : Text} {host : Host} {name : Pathname}
    (found : (host.canonical path).map Pathname.ofText = .ok name) :
    name.IsCanonical ∧ host.canonical path = .ok name.text := by
  cases resolved : host.canonical path with
  | error failure =>
      rw [resolved] at found
      cases found
  | ok text =>
      rw [resolved] at found
      obtain ⟨own, canonical, rfl⟩ := Host.exists_canonical resolved
      obtain rfl := Except.ok.inj found
      rw [canonical.ofText_text]
      exact ⟨canonical, rfl⟩

theorem map_ofText_canonical_of_ok {path resolved : Text} {host : Host}
    (found : host.canonical path = .ok resolved) :
    ∃ name : Pathname, name.IsCanonical ∧ resolved = name.text ∧
      (host.canonical path).map Pathname.ofText = .ok name := by
  obtain ⟨name, canonical, rfl⟩ := Host.exists_canonical found
  refine ⟨name, canonical, rfl, ?_⟩
  rw [found, Except.map, canonical.ofText_text]

/-- A search that is not a failure at once is a climb from the start with the limit as its
boundary. -/
theorem locate_eq_climb (lister : Lister) {settings : Settings.Store} {file : Text}
    {workspaceFolder : Option Text} {host : Host} {limit start : Pathname} (named : file ≠ [])
    (limited : limitOf settings workspaceFolder host = .ok limit)
    (starts : startOf file host = .ok start) :
    limit.IsCanonical ∧ start.IsCanonical ∧
      locate lister settings (some file) workspaceFolder host =
        climb lister limit.text start.text start.text := by
  unfold limitOf at limited
  unfold startOf at starts
  split at limited
  next => cases limited
  next outermost isBoundary =>
    split at starts
    next => cases starts
    next directory isDirectory =>
      obtain ⟨limitCanonical, limitText⟩ := map_ofText_canonical_eq_ok limited
      obtain ⟨startCanonical, startText⟩ := map_ofText_canonical_eq_ok starts
      refine ⟨limitCanonical, startCanonical, ?_⟩
      obtain ⟨c, rest, rfl⟩ := List.exists_cons_of_ne_nil named
      rw [locate, isBoundary]
      dsimp only
      rw [isDirectory]
      dsimp only
      rw [searchCanonical, limitText]
      dsimp only
      rw [startText]
      rfl

/-- A search that finds a root knows where it begins and how far it may go. -/
theorem exists_of_locate_ok {lister : Lister} {settings : Settings.Store} {file root : Text}
    {workspaceFolder : Option Text} {host : Host} (named : file ≠ [])
    (found : (locate lister settings (some file) workspaceFolder host).outcome = .ok root) :
    ∃ limit start, limitOf settings workspaceFolder host = .ok limit ∧
      startOf file host = .ok start := by
  obtain ⟨c, rest, rfl⟩ := List.exists_cons_of_ne_nil named
  unfold locate at found
  split at found
  next => cases found
  next outermost isBoundary =>
    dsimp only at found
    split at found
    next => cases found
    next directory isDirectory =>
      unfold searchCanonical at found
      split at found
      next => cases found
      next limitText limited =>
        split at found
        next => cases found
        next startText starts =>
          obtain ⟨limit, -, -, isLimit⟩ := map_ofText_canonical_of_ok limited
          obtain ⟨start, -, -, isStart⟩ := map_ofText_canonical_of_ok starts
          refine ⟨limit, start, ?_, ?_⟩
          · rw [limitOf, isBoundary]
            exact isLimit
          · rw [startOf, isDirectory]
            exact isStart

/-- The module root of a file is the nearest directory with a marker at or above the file's own
directory, all of them without links. If the boundary is at or above that directory too, no
directory above the boundary is listed, the root is not above it, and no root is found exactly if
every directory up to the boundary can be listed and none has a marker. Links and spellings do not
matter, since the directories are compared by the components of their paths without links; an
empty path is no file. -/
theorem root_within_boundary (settings : Settings.Store) (workspaceFolder : Option Text)
    (host : Host) {file : Text} (named : file ≠ []) :
    let lister : Lister := fun path => host.list path
    let search := locate lister settings (some file) workspaceFolder host
    (∀ root, search.outcome = .ok root → ∃ start place : Pathname,
      startOf file host = .ok start ∧ root = place.text ∧ place.IsAtOrAbove start ∧
      Marked lister root ∧
      ∀ between : Pathname, between.IsAtOrAbove start → place.IsAtOrAbove between →
        between ≠ place → Unmarked lister between.text) ∧
    (∀ limit start, limitOf settings workspaceFolder host = .ok limit →
      startOf file host = .ok start → limit.IsAtOrAbove start →
      (∀ path ∈ search.listed, ∃ place : Pathname,
        path = place.text ∧ place.IsAtOrAbove start ∧ limit.IsAtOrAbove place) ∧
      (∀ root, search.outcome = .ok root → ∃ place : Pathname,
        root = place.text ∧ place.IsAtOrAbove start ∧ limit.IsAtOrAbove place) ∧
      ((∃ boundary start, search.outcome = .error (.rootNotFound boundary start)) ↔
        ∀ place : Pathname, limit.IsAtOrAbove place → place.IsAtOrAbove start →
          Unmarked lister place.text)) := by
  intro lister search
  have contained : ∀ {limit start}, limitOf settings workspaceFolder host = .ok limit →
      startOf file host = .ok start → Contained lister limit start search := by
    intro limit start limited starts
    obtain ⟨limitCanonical, startCanonical, climbs⟩ :=
      locate_eq_climb lister named limited starts
    change Contained lister limit start
      (locate lister settings (some file) workspaceFolder host)
    rw [climbs]
    exact contained_climb lister start.text limitCanonical startCanonical
  constructor
  · intro root found
    obtain ⟨limit, start, limited, starts⟩ := exists_of_locate_ok named found
    obtain ⟨place, written, above, -, marked, nearest⟩ := (contained limited starts).found root found
    exact ⟨start, place, starts, written, above, marked, nearest⟩
  · intro limit start limited starts within
    have climbs := contained limited starts
    refine ⟨fun path member => ?_, fun root found => ?_, climbs.missed within⟩
    · obtain ⟨place, written, above, below⟩ := climbs.listed path member
      exact ⟨place, written, above, below within⟩
    · obtain ⟨place, written, above, below, -⟩ := climbs.found root found
      exact ⟨place, written, above, below within⟩

/-- A host on which a workspace with a module in it is reached through a link. -/
def linkedHost : Host where
  tree :=
    ⟨[(["ws"], .link "real"), (["real"], .directory), (["real", "m"], .directory),
      (["real", "m", "cue.mod"], .directory), (["real", "m", "sub"], .directory),
      (["real", "m", "sub", "a.cue"], .file (.text "x: 1"))]⟩
  workingDirectory := FileTree.Spot.root
  environment := []
  accountHome := none
  programs := []
  temporary := "/tmp"
  outcomes := []
  spawned := []
  drawn := 0
  journal := []

/-- The standard settings, whose boundary is the workspace folder. -/
def standardSettings : Settings.Store := ⟨Pathname.ofText "/s", Settings.defaults⟩

/-- A file of the module, spelled through the link. -/
def linkedFile : Text := "/ws/m/sub/a.cue"

theorem linked_root_within_boundary :
    linkedFile ≠ [] ∧
    limitOf standardSettings (some "/ws/") linkedHost = .ok ⟨"/", ["real"]⟩ ∧
    startOf linkedFile linkedHost = .ok ⟨"/", ["real", "m", "sub"]⟩ ∧
    (∃ place : Pathname, ("/real/m" : Text) = place.text ∧
      place.IsAtOrAbove ⟨"/", ["real", "m", "sub"]⟩ ∧
      Marked (fun path => linkedHost.list path) "/real/m") ∧
    ∃ place : Pathname, ("/real/m" : Text) = place.text ∧
      place.IsAtOrAbove ⟨"/", ["real", "m", "sub"]⟩ ∧ Pathname.IsAtOrAbove ⟨"/", ["real"]⟩ place := by
  have named : linkedFile ≠ [] := by decide
  have limited : limitOf standardSettings (some "/ws/") linkedHost = .ok ⟨"/", ["real"]⟩ := by
    decide +kernel
  have starts : startOf linkedFile linkedHost = .ok ⟨"/", ["real", "m", "sub"]⟩ := by
    decide +kernel
  have found : (locate (fun path => linkedHost.list path) standardSettings (some linkedFile)
      (some "/ws/") linkedHost).outcome = .ok "/real/m" := by decide +kernel
  obtain ⟨nearest, bounded⟩ :=
    root_within_boundary standardSettings (some "/ws/") linkedHost named
  obtain ⟨start, place, startsAt, written, above, marked, -⟩ := nearest _ found
  obtain rfl := Except.ok.inj (starts.symm.trans startsAt)
  exact ⟨named, limited, starts, ⟨place, written, above, marked⟩,
    (bounded _ _ limited starts (by decide)).2.1 _ found⟩

end CueWatch.ModuleRoot
