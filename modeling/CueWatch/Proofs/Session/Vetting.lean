import CueWatch.Proofs.Session.Launch
import CueWatch.Proofs.Session.Published

/-!
Contract: `cue vet` is run only inside a module, with the flags of the moment.

Owns:
- `VetsModule`, what a process of a lint is, told by the session in which the lint begins;
- `Accounted`, what the process of a turn has to do with its request;
- that every history of a session accounts for the processes that have been started.

Does not own: what a lint does with the report of its process (`Proofs.Session.Lint`).
-/

namespace CueWatch

open Attempt

/-- A boundary is the template in the settings with its variables replaced; where nothing is left of
it, it is the working directory. -/
theorem ModuleRoot.exists_of_boundary {settings : Settings.Store} {workspaceFolder : Option Text}
    {host : Host} {directory : Text}
    (found : boundary settings workspaceFolder host = .ok directory) :
    ∃ template expanded, settings.moduleRoot = .text template ∧
      Settings.Template.expand template workspaceFolder host = .ok expanded ∧
      (if expanded = [] then host.workingText = .ok directory else directory = expanded) := by
  unfold boundary expandTemplate at found
  split at found
  next template isText =>
    split at found
    next => cases found
    next expanded isExpanded =>
      refine ⟨template, expanded, isText, isExpanded, ?_⟩
      split at found
      next empty => rwa [if_pos (List.isEmpty_iff.mp empty)]
      next nonempty =>
        rw [if_neg fun empty => nonempty (List.isEmpty_iff.mpr empty)]
        exact (Except.ok.inj found).symm
  next => cases found
  next => cases found

namespace Session

/-! ### Processes of lints -/

/-- A process of a turn is that of a lint that begins in a session. The file is vetted with the
flags that the session holds, in the directory of the file or in one above it, without links, which
at that moment has a marker among its names. -/
structure VetsModule (turn : Turn) (linted : Session) (command : CueWatch.Command) : Prop where
  begins : turn.request.lintedFrom? turn.before = some linted
  argv : ∃ program flags, turn.before.cue.path = some program ∧
    turn.after.lintFlags.spread = .ok (Cue.words flags) ∧
    command.argv = program :: "vet" :: turn.before.source :: (flags ++ [Cue.concreteFlag])
  directory : ∃ start place : Pathname, start.IsCanonical ∧
    linted.host.canonical (Spelling.directory turn.before.source) = .ok start.text ∧
    place.IsAtOrAbove start ∧ command.directory = some place.text ∧
    ModuleRoot.Marked (fun path => linted.host.list path) place.text
  moment : Host.Launches (some command) linted.host turn.after.host

/-- What the process of a turn has to do with its request. -/
structure Accounted (turn : Turn) : Prop where
  vets : ∀ command, turn.command? = some command → Cue.Does "vet" command →
    ∃ linted, VetsModule turn linted command
  unready : ∀ linted, turn.request.lintedFrom? turn.before = some linted →
    (∀ root, linted.rootSearch.outcome ≠ .ok root) ∨ linted.cue.usable = none →
    turn.command? = none
  unasked : turn.request = .start ∨ (∃ path, turn.request = .saved path) →
    turn.before.settings.lintOnSave = false → turn.command? = none
  evaluates : ∀ expressions outType, turn.request = .evaluate expressions outType →
    (∀ lister : ModuleRoot.Lister,
      ModuleRoot.locate lister turn.before.settings none turn.before.workspaceFolder
        turn.before.host = ⟨turn.before.evalDirectory, [], []⟩) ∧
    (∀ tree, turn.request.command?
      { turn.before with host := { turn.before.host with tree := tree } } = turn.command?) ∧
    ∀ command, turn.command? = some command → ∃ directory template expanded,
      command.directory = some directory ∧ turn.before.settings.moduleRoot = .text template ∧
      Settings.Template.expand template turn.before.workspaceFolder turn.before.host =
        .ok expanded ∧
      (if expanded = [] then turn.before.host.workingText = .ok directory
        else directory = expanded)
  idle : turn.request = .stop ∨ (∃ outType, turn.request = .setOutType outType) ∨
    (∃ enabled, turn.request = .setLintOnSave enabled) → turn.command? = none

theorem argv_of_vetCommand? {cue : Cue} {file : Text} {flags : Settings.Value}
    {directory : Option Text} {command : CueWatch.Command}
    (told : cue.vetCommand? file flags directory = some command) :
    ∃ program texts, cue.path = some program ∧ flags.spread = .ok (Cue.words texts) ∧
      command = ⟨program :: "vet" :: file :: (texts ++ [Cue.concreteFlag]), directory⟩ := by
  unfold Cue.vetCommand? at told
  split at told
  next items isSpread =>
    obtain ⟨program, texts, found, written, rfl⟩ := Cue.exists_of_command? told
    -- The flags stand between the words that are given and the flag for concrete values.
    obtain ⟨front, last, rfl, isFront, isLast⟩ := List.map_eq_append_iff.mp written.symm
    obtain ⟨head, middle, rfl, isHead, isMiddle⟩ := List.map_eq_append_iff.mp isFront
    obtain rfl := Cue.words_inj isHead
    obtain rfl := Cue.words_inj isLast
    refine ⟨program, middle, Cue.path_of_usable found, ?_, rfl⟩
    rw [isSpread, ← isMiddle]
    rfl
  next => cases told

/-- The process of a lint runs in a directory that holds a module of the file. -/
theorem directory_of_rootSearch {session : Session} {root : Text}
    (rooted : Spelling.isAbsolute session.source = true)
    (normal : Spelling.normal session.source = session.source)
    (located : session.rootSearch.outcome = .ok root) :
    ∃ start place : Pathname, start.IsCanonical ∧
      session.host.canonical (Spelling.directory session.source) = .ok start.text ∧
      place.IsAtOrAbove start ∧ root = place.text ∧
      ModuleRoot.Marked (fun path => session.host.list path) place.text := by
  have named : session.source ≠ [] := by
    intro empty
    rw [empty] at rooted
    cases rooted
  have directory : ModuleRoot.directoryOf session.source session.host =
      .ok (Spelling.directory session.source) := by
    rw [ModuleRoot.directoryOf, Host.absolute, if_pos rooted, normal]
    rfl
  obtain ⟨limit, start, limited, starts⟩ := ModuleRoot.exists_of_locate_ok named located
  obtain ⟨limitCanonical, startCanonical, climbs⟩ :=
    ModuleRoot.locate_eq_climb (fun path => session.host.list path) named limited starts
  have contained := ModuleRoot.contained_climb (fun path => session.host.list path) start.text
    limitCanonical startCanonical
  rw [rootSearch, climbs] at located
  obtain ⟨place, written, above, -, marked, -⟩ := contained.found root located
  rw [ModuleRoot.startOf, directory] at starts
  obtain ⟨-, resolved⟩ := ModuleRoot.map_ofText_canonical_eq_ok starts
  exact ⟨start, place, startCanonical, resolved, above, written, written ▸ marked⟩

/-- Only a lint starts a process that vets. -/
theorem exists_of_vets {request : Request} {session : Session} {command : CueWatch.Command}
    (told : request.command? session = some command) (vets : Cue.Does "vet" command) :
    ∃ linted, request.lintedFrom? session = some linted ∧ linted.vetCommand? = some command := by
  cases request with
  | evaluate expressions outType =>
      rw [Request.command?, evalCommand?] at told
      split at told
      next =>
        unfold Cue.evalCommand? at told
        split at told
        next => exact absurd (vets.word_eq (Cue.does_of_command? told)) (by decide)
        next => cases told
      next => cases told
  | format => exact absurd (vets.word_eq (Cue.does_of_command? told)) (by decide)
  | _ => exact Option.bind_eq_some_iff.mp told

theorem keeps_lintFlags_lint : Keeps Session.lintFlags lint := by
  have overlooks : Overlooks Session.lintFlags := ⟨fun _ _ => rfl, fun _ _ _ => rfl, fun _ _ => rfl⟩
  refine Keeps.bind (Keeps.look id) fun session => Keeps.bind (overlooks.keeps_log _ _) fun _ => ?_
  exact overlooks.keeps_perform .lint () (keeps_lintBody (fun _ _ => rfl) fun _ _ _ _ _ _ => rfl)

/-- What a turn that vets has to do with its request. -/
theorem exists_vetsModule {turn : Turn}
    (rooted : Spelling.isAbsolute turn.before.source = true)
    (normal : Spelling.normal turn.before.source = turn.before.source)
    {command : CueWatch.Command} (told : turn.command? = some command)
    (vets : Cue.Does "vet" command) : ∃ linted, VetsModule turn linted command := by
  obtain ⟨linted, begins, isCommand⟩ := exists_of_vets told vets
  obtain ⟨same, ends⟩ := of_lintedFrom? begins
  have source : linted.source = turn.before.source := congrArg Fixture.source same
  have cue : linted.cue = turn.before.cue := congrArg Fixture.cue same
  have overlooks : Overlooks Session.lintFlags := ⟨fun _ _ => rfl, fun _ _ _ => rfl, fun _ _ => rfl⟩
  have flags : turn.after.lintFlags = linted.lintFlags :=
    (ends overlooks fun _ _ => rfl).trans (keeps_lintFlags_lint linted)
  have launches := launches_of_lintedFrom? begins
  rw [isCommand] at launches
  rw [← source] at rooted normal
  unfold vetCommand? at isCommand
  split at isCommand
  next root located =>
    obtain ⟨program, texts, found, isSpread, rfl⟩ := argv_of_vetCommand? isCommand
    obtain ⟨start, place, canonical, starts, above, written, marked⟩ :=
      directory_of_rootSearch rooted normal located
    rw [source] at starts
    rw [cue] at found
    rw [← flags] at isSpread
    exact ⟨linted,
      { begins := begins
        argv := ⟨program, texts, found, isSpread, by rw [source]⟩
        directory := ⟨start, place, canonical, starts, above, congrArg some written, marked⟩
        moment := launches }⟩
  next => cases isCommand

/-! ### Turns that vet nothing -/

theorem command?_of_lintedFrom? {request : Request} {session linted : Session}
    (begins : request.lintedFrom? session = some linted) :
    request.command? session = linted.vetCommand? := by
  cases request with
  | evaluate => cases begins
  | format => cases begins
  | _ => exact congrArg (·.bind vetCommand?) begins

/-- A lint without a module root or without a program starts nothing. -/
theorem vetCommand?_of_unready {session : Session}
    (unready : (∀ root, session.rootSearch.outcome ≠ .ok root) ∨ session.cue.usable = none) :
    session.vetCommand? = none := by
  unfold vetCommand?
  split
  next root located =>
    unfold Cue.vetCommand?
    split
    next =>
      rcases unready with unlocated | unusable
      · exact absurd located (unlocated root)
      · exact Cue.command?_of_unusable unusable _ _
    next => rfl
  next => rfl

theorem reloadedForLint?_of_unasked {session : Session}
    (unasked : session.settings.lintOnSave = false) : session.reloadedForLint? = none := by
  rcases savedBody_cases session with ⟨linted, -, asked, -⟩ | ⟨none, -⟩
  · rw [unasked] at asked
    cases asked
  · exact none

theorem command?_of_unasked {request : Request} {session : Session}
    (onSave : request = .start ∨ ∃ path, request = .saved path)
    (unasked : session.settings.lintOnSave = false) : request.command? session = none := by
  rcases onSave with rfl | ⟨path, rfl⟩
  · exact congrArg (·.bind vetCommand?) (reloadedForLint?_of_unasked unasked)
  · have stillUnasked : (session.notedSave path).settings.lintOnSave = false := unasked
    exact congrArg (·.bind vetCommand?) (reloadedForLint?_of_unasked stillUnasked)

/-- The process of an evaluation does not depend on what stands in the file tree. -/
theorem evalCommand?_of_tree (expressions outType : Settings.Value) (session : Session)
    (tree : FileTree) :
    evalCommand? expressions outType
      { session with host := { session.host with tree := tree } } =
      session.evalCommand? expressions outType := by
  have directory : evalDirectory { session with host := { session.host with tree := tree } } =
      session.evalDirectory :=
    ModuleRoot.boundary_congr session.host { session.host with tree := tree } rfl rfl rfl _ _
  rw [evalCommand?, evalCommand?, directory]

theorem directory_of_evalCommand? {expressions outType : Settings.Value} {session : Session}
    {command : CueWatch.Command} (told : session.evalCommand? expressions outType = some command) :
    ∃ directory, session.evalDirectory = .ok directory ∧ command.directory = some directory := by
  unfold evalCommand? Cue.evalCommand? at told
  split at told
  next directory items located _ =>
    split at told
    next =>
      obtain ⟨program, texts, -, -, rfl⟩ := Cue.exists_of_command? told
      exact ⟨directory, located, rfl⟩
    next => cases told
  next => cases told

/-! ### Every history -/

theorem accounted {turn : Turn} (rooted : Spelling.isAbsolute turn.before.source = true)
    (normal : Spelling.normal turn.before.source = turn.before.source) : Accounted turn where
  vets := fun command told vets => exists_vetsModule rooted normal told vets
  unready := by
    intro linted begins unready
    exact (command?_of_lintedFrom? begins).trans (vetCommand?_of_unready unready)
  unasked := command?_of_unasked
  evaluates := by
    intro expressions outType isEvaluation
    obtain ⟨session, _⟩ := turn
    obtain rfl := isEvaluation
    refine ⟨fun lister => ?_, fun tree => ?_, fun command told => ?_⟩
    · rw [ModuleRoot.locate, evalDirectory]
      cases ModuleRoot.boundary session.settings session.workspaceFolder session.host with
      | error failure => rfl
      | ok directory => rfl
    · exact evalCommand?_of_tree expressions _ session tree
    · obtain ⟨directory, located, runsIn⟩ := directory_of_evalCommand? told
      obtain ⟨template, expanded, isText, isExpanded, same⟩ := ModuleRoot.exists_of_boundary located
      exact ⟨directory, template, expanded, runsIn, isText, isExpanded, same⟩
  idle := by
    obtain ⟨session, _⟩ := turn
    rintro (rfl | ⟨outType, rfl⟩ | ⟨enabled, rfl⟩) <;> rfl

/-- What others may do to a session while its processes are counted: everything but give it another
file or start processes in its name. -/
def SparesAccount (session later : Session) : Prop :=
  later.source = session.source ∧ later.commands = session.commands

theorem commands_of_history {first session : Session} {turns : List Turn}
    (history : History SparesAccount first turns session) :
    session.commands = first.commands ++ turns.filterMap Turn.command? := by
  induction history with
  | opened => rw [List.filterMap_nil, List.append_nil]
  | @asked turns session earlier request inductionHypothesis =>
      rw [commands_perform, inductionHypothesis, filterMap_asked, List.append_assoc]
      rfl
  | disturbed earlier spared inductionHypothesis => rw [spared.2, inductionHypothesis]

/-- The processes of a session are those of the turns in its history, at most one for each. Whatever
vets is the process of a lint, in a directory of the file's module at that moment and with the flags
of that moment; without a module root or a program no lint starts a process. Saves and the start
lint only if that is asked for, evaluations run in the expanded boundary whatever stands in the file
tree, and changes of settings and the stop start nothing. -/
theorem vets_in_module {first session : Session} {turns : List Turn} (new : IsNew first)
    (history : History SparesAccount first turns session) :
    session.host.spawned = first.host.spawned ++ turns.filterMap Turn.command? ∧
      ∀ turn ∈ turns, Accounted turn := by
  obtain ⟨rooted, normal⟩ := new.source
  have source : ∀ turn ∈ turns, turn.before.source = first.source := by
    refine (history.same (fun request session => ?_) fun _ _ spared => spared.1).2
    exact congrArg Fixture.source (keeps_fixture_perform request session)
  refine ⟨commands_of_history history, fun turn member => ?_⟩
  rw [← source turn member] at rooted normal
  exact accounted rooted normal

/-- The session on the file after a lint, when somebody has removed the module. -/
def unmarkedSession : Session :=
  let linted := (Request.lint.perform.run unresolvedSession).2
  { linted with host := { linted.host with tree := linted.host.tree.prune ["w", "cue.mod"] } }

/-- Two lints, the second of them without a module. -/
def lintTurns : List Turn := [⟨unresolvedSession, .lint⟩, ⟨unmarkedSession, .lint⟩]

theorem lintTurns_vet_in_module :
    (Request.lint.perform.run unmarkedSession).2.host.spawned =
      [⟨["/bin/cue", "vet", "/w/a.cue", "-c"], some "/w"⟩] ∧
    ∀ turn ∈ lintTurns, Accounted turn := by
  have new : IsNew unresolvedSession := ⟨_, _, _, _, create_unresolvedSession⟩
  have linted : History SparesAccount unresolvedSession [⟨unresolvedSession, .lint⟩] _ :=
    History.opened.asked .lint
  have unmarked : History SparesAccount unresolvedSession _ unmarkedSession :=
    linted.disturbed ⟨rfl, rfl⟩
  obtain ⟨spawned, accounted⟩ := vets_in_module new (unmarked.asked .lint)
  refine ⟨spawned.trans ?_, accounted⟩
  decide +kernel

end Session

end CueWatch
