import CueWatch.Proofs.Host.Files
import CueWatch.Proofs.Host.Processes

/-!
Contract: steps that do no more to a host than add to its file tree.

Owns:
- `Extends`, which relates a later host to an earlier one when no process has been started and
  nothing in the file tree was changed or removed;
- `Additive`, the steps after which that is so, with the rules by which they are put together;
- the relations that go on while directories are made; that making directories is additive, and
  writing a file where none can be read; and that what could be read before can be read afterwards;
- that a process that writes nothing adds nothing.

Does not own: the steps that set a run up (`Proofs.CommandLine`).
-/

namespace CueWatch.Host

open Attempt

variable {α β : Type}

/-- A later host: no process has been started since, and nothing has happened to the file tree but
additions. -/
structure Extends (later host : Host) : Prop where
  processes : later.processes = host.processes
  adds : Adds later host

namespace Extends

theorem refl (host : Host) : Extends host host := ⟨rfl, .refl host⟩

theorem trans {host later latest : Host} (second : Extends latest later)
    (first : Extends later host) : Extends latest host :=
  ⟨second.processes.trans first.processes, second.adds.trans first.adds⟩

theorem calm {host later : Host} (extension : Extends later host) (calm : Calm host) :
    Calm later := by
  have same : later.outcomes = host.outcomes := congrArg Prod.snd extension.processes
  unfold Calm
  rw [same]
  exact calm

end Extends

theorem exists_find_of_readText {path text : Text} {host : Host}
    (readable : host.readText path = .ok text) : ∃ found, host.find true path = .ok found := by
  cases isFound : host.find true path with
  | error failure =>
      rw [readText, content, isFound] at readable
      cases readable
  | ok found => exact ⟨found, rfl⟩

theorem exists?_of_readText {path text : Text} {host : Host}
    (readable : host.readText path = .ok text) : host.exists? path = true := by
  obtain ⟨found, isFound⟩ := exists_find_of_readText readable
  rw [exists?, isFound]

/-- What could be read is still read after additions. -/
theorem Adds.readText {host larger : Host} (adds : Adds larger host) {path text : Text}
    (readable : host.readText path = .ok text) : larger.readText path = .ok text := by
  obtain ⟨found, isFound⟩ := exists_find_of_readText readable
  have stillFound := adds.find isFound
  rw [Host.readText, content, isFound] at readable
  rw [Host.readText, content, stillFound]
  exact readable

/-! ### Steps that make directories -/

section

variable {relation : Host → Host → Prop}

theorem moves_ensureDirectory (chains : Chains relation)
    (making : ∀ path, Moves relation (makeDirectory path)) (path : Text) :
    Moves relation (ensureDirectory path) := by
  refine chains.rescue (making path) fun failure => ?_
  exact chains.bind (chains.look _) fun _ => Moves.ite (chains.pure ()) (chains.fail _)

theorem moves_makeDirectories (chains : Chains relation)
    (making : ∀ path, Moves relation (makeDirectory path)) (path : Pathname) :
    Moves relation (makeDirectories path) := by
  unfold makeDirectories
  generalize path.parts.length + 1 = upward
  induction upward generalizing path with
  | zero => exact making path.text
  | succ upward inductionHypothesis =>
      refine chains.rescue (making path.text) fun failure => ?_
      refine Moves.ite (Moves.ite (chains.fail failure) ?_) ?_
      · exact chains.bind (inductionHypothesis path.parent) fun _ =>
          moves_ensureDirectory chains making path.text
      · exact chains.bind (chains.look _) fun _ =>
          Moves.ite (chains.pure ()) (chains.fail failure)

theorem moves_makeTree (chains : Chains relation)
    (making : ∀ path, Moves relation (makeDirectory path)) (isLenient : Bool) (path : Text) :
    Moves relation (makeTree isLenient path) := by
  have made : ∀ (isComplete : Bool) (path : Text), Moves relation
      (if isComplete then pure ()
        else if isLenient then ensureDirectory path
        else makeDirectory path : Attempt Host Unit) :=
    fun isComplete path => Moves.ite (chains.pure ())
      (Moves.ite (moves_ensureDirectory chains making path) (making path))
  fun_induction makeTree isLenient path with
  | case1 path _ _ _ inductionHypothesis =>
      refine chains.bind (chains.look _) fun isThere => Moves.ite ?_ ?_
      · exact chains.bind (chains.pure false) fun isComplete => made isComplete path
      · refine chains.bind (chains.rescue inductionHypothesis fun failure => ?_) fun _ => ?_
        · split
          · exact chains.pure ()
          · exact chains.fail failure
        · exact chains.bind (chains.pure _) fun isComplete => made isComplete path
  | case2 path => exact chains.bind (chains.pure false) fun isComplete => made isComplete path

theorem moves_makeTemporary (chains : Chains relation) {start directory : Text}
    (making : ∀ number, Moves relation
      (makeDirectory (Spelling.append directory (start ++ temporaryDigits number))))
    (drawing : ∀ host : Host, relation { host with drawn := host.drawn + 1 } host) :
    Moves relation (makeTemporary start directory) := by
  refine chains.bind (chains.look _) fun entries => ?_
  generalize entries + 1 = draws
  induction draws with
  | zero => exact chains.fail _
  | succ draws inductionHypothesis =>
      refine chains.bind drawing fun _ => ?_
      refine chains.bind (chains.look _) fun number => ?_
      refine chains.rescue ?_ fun failure => ?_
      · exact chains.bind (making _) fun _ => chains.pure _
      · split
        · exact inductionHypothesis
        · exact chains.fail failure

end

/-! ### Steps -/

/-- A step that starts no process and does nothing to the file tree but add to it. -/
def Additive (step : Attempt Host α) : Prop := ∀ host, Extends (step.run host).2 host

theorem chains_extends : Chains Extends := ⟨Extends.refl, Extends.trans⟩

namespace Additive

theorem pure (value : α) : Additive (Pure.pure value) := chains_extends.pure value

theorem fail (failure : Failure) : Additive (Attempt.fail failure : Attempt Host α) :=
  chains_extends.fail failure

theorem look (view : Host → α) : Additive (Attempt.look view) := chains_extends.look view

theorem require (view : Host → Except Failure α) : Additive (Attempt.require view) :=
  chains_extends.require view

theorem ofExcept (outcome : Except Failure α) : Additive (Attempt.ofExcept outcome) :=
  chains_extends.ofExcept outcome

theorem bind {step : Attempt Host α} {next : α → Attempt Host β} (first : Additive step)
    (later : ∀ value, Additive (next value)) : Additive (step >>= next) :=
  chains_extends.bind first later

theorem ite {condition : Prop} [Decidable condition] {step other : Attempt Host α}
    (first : Additive step) (second : Additive other) :
    Additive (if condition then step else other) := Moves.ite first second

end Additive

theorem additive_log (level : Journal.Level) (text : Text) : Additive (log level text) :=
  fun host => ⟨rfl, rfl, .refl host.tree⟩

/-! ### Directories -/

theorem additive_makeDirectory (path : Text) : Additive (makeDirectory path) := by
  intro host
  refine ⟨(quiet_makeDirectory path).kept host, ?_⟩
  rcases ran : (makeDirectory path).run host with ⟨failure | _, made⟩
  · rw [eq_of_makeDirectory_error ran]
    exact .refl host
  · obtain ⟨place, _, leads, rfl⟩ := exists_of_makeDirectory ran
    exact adds_placed leads.free.free .directory

theorem additive_makeDirectories (path : Pathname) : Additive (makeDirectories path) :=
  moves_makeDirectories chains_extends additive_makeDirectory path

theorem additive_makeTree (isLenient : Bool) (path : Text) : Additive (makeTree isLenient path) :=
  moves_makeTree chains_extends additive_makeDirectory isLenient path

theorem additive_makeTemporary (start directory : Text) :
    Additive (makeTemporary start directory) :=
  moves_makeTemporary chains_extends (fun _ => additive_makeDirectory _)
    fun host => ⟨rfl, rfl, .refl host.tree⟩

/-! ### Files -/

/-- A file that is written where none can be read is an addition. -/
theorem extends_writeContent {path : Text} {host : Host} (content : Content)
    (absent : ∀ old, host.content path ≠ .ok old) :
    Extends ((writeContent path content).run host).2 host := by
  refine ⟨(quiet_writeContent path content).kept host, ?_⟩
  have ends := writeContent_ends path content host
  generalize (writeContent path content).run host = ended at ends ⊢
  cases ends with
  | refused => exact .refl host
  | made leads => exact adds_placed leads.free.free (.file content)
  | @replaced spot old leads present =>
      have isThere : host.content path = .ok old := by
        rw [Host.content, find_eq_ok_iff.mpr ⟨leads, present⟩]
      exact absurd isThere (absent old)

/-- What is written to the journal is no addition to the file tree. -/
theorem adds_of_unlogged {host later : Host} (same : later.unlogged = host.unlogged) :
    Adds later host := by
  have tree : later.unlogged.tree = host.unlogged.tree := congrArg Host.tree same
  have workingDirectory : later.unlogged.workingDirectory = host.unlogged.workingDirectory :=
    congrArg Host.workingDirectory same
  have tree : later.tree = host.tree := tree
  exact ⟨workingDirectory, tree ▸ .refl host.tree⟩

/-! ### Processes that write nothing -/

theorem settled_of_writeless {outcome : ProcessOutcome} (writeless : outcome.writes = [])
    (host : Host) : ((settle outcome).run host).2 = host := by
  have written : (writeAll []).run host = (.ok (), host) := rfl
  rw [settle, writeless, run_bind_of_ok written]
  split
  · rfl
  · rfl

/-- A process that writes no files leaves the file tree as it is. -/
theorem Launches.adds {command? : Option Command} {host later : Host}
    (launches : Launches command? host later)
    (writeless : (host.outcomes.headD .silent).writes = []) : Adds later host := by
  cases command? with
  | none => exact adds_of_unlogged launches
  | some command =>
      obtain ⟨moment, begins, ends⟩ := launches
      have outcomes : moment.unlogged.outcomes = host.unlogged.outcomes :=
        congrArg Host.outcomes begins
      have same : moment.outcomes = host.outcomes := outcomes
      let spawning := started ⟨command.argv, command.directory⟩ moment
      have spawns : Adds spawning moment := ⟨rfl, .refl moment.tree⟩
      rw [run_spawn, same, settled_of_writeless writeless] at ends
      exact (adds_of_unlogged ends).trans (spawns.trans (adds_of_unlogged begins))

end CueWatch.Host
