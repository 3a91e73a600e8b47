import CueWatch.Diagnostic.Collection
import CueWatch.Proofs.Keyed
import Mathlib.Data.Set.Card

/-!
Contract: what stands published after any requests, whatever way their paths are spelled.

A collection goes forward and keeps one entry for each canonical path. Here what stands under a path
is told by looking back: it is what the last request about this path has published. Two spellings
are about the same path if they have the same canonical form at the time they are used, so that
links and the working directory may change from one request to the next.

Owns:
- `Request` and `Call`, a request on the host on which it is made, and what a call leaves;
- `Stand`, the findings that stand under a path after some calls;
- that a collection tells exactly what stands: by look-up, by its size and by its paths.

Does not own: how canonical paths are found (`FileTree.Resolve`), and the requests that a session
makes (`Proofs.Session.Published`).
-/

namespace CueWatch

namespace Collection

/-! ### Requests -/

/-- What a collection can be asked to change. -/
inductive Request where
  | publish (path : Text) (findings : List Diagnostic)
  | withdraw (path : Text)
  | withdrawAll

/-- A request, and the host on which its path is looked at. -/
structure Call where
  host : Host
  request : Request

namespace Call

/-- The collection that is asked for; there is none if the path has no canonical form. -/
def outcome (call : Call) (collection : Collection) : Except Failure Collection :=
  match call.request with
  | .publish path findings => collection.publish path findings call.host
  | .withdraw path => collection.withdraw path call.host
  | .withdrawAll => .ok .empty

/-- What a call leaves: a call that fails changes nothing. -/
def leave (collection : Collection) (call : Call) : Collection :=
  (call.outcome collection).toOption.getD collection

/-- A call is about a canonical path: it publishes or withdraws what stands there, or everything. -/
def Concerns (call : Call) (key : Text) : Prop :=
  match call.request with
  | .publish path _ => call.host.canonical path = .ok key
  | .withdraw path => call.host.canonical path = .ok key
  | .withdrawAll => True

/-- A call publishes findings under a canonical path. -/
def Publishes (call : Call) (key : Text) (findings : List Diagnostic) : Prop :=
  ∃ path, call.request = .publish path findings ∧ call.host.canonical path = .ok key

end Call

/-- The collection after some calls, made one after another. -/
def after (calls : List Call) : Collection := calls.foldl Call.leave .empty

/-- Findings stand under a canonical path: a call has published them there, and no later call is
about this path. -/
def Stand (calls : List Call) (key : Text) (findings : List Diagnostic) : Prop :=
  ∃ earlier call later, calls = earlier ++ call :: later ∧ call.Publishes key findings ∧
    ∀ other ∈ later, ¬ other.Concerns key

/-! ### One call -/

section

variable {host : Host} {path key : Text}

theorem Call.leave_publish (placed : host.canonical path = .ok key) (findings : List Diagnostic)
    (collection : Collection) :
    leave collection ⟨host, .publish path findings⟩ =
      ⟨Keyed.put key findings collection.entries⟩ := by
  simp [leave, outcome, publish, placed, Except.map, Except.toOption]

theorem Call.leave_withdraw (placed : host.canonical path = .ok key) (collection : Collection) :
    leave collection ⟨host, .withdraw path⟩ = ⟨Keyed.erase key collection.entries⟩ := by
  simp [leave, outcome, withdraw, placed, Except.map, Except.toOption]

theorem Call.leave_withdrawAll (collection : Collection) :
    leave collection ⟨host, .withdrawAll⟩ = empty := rfl

theorem Call.leave_of_unplaced {failure : Failure} (unplaced : host.canonical path = .error failure)
    (collection : Collection) :
    (∀ findings, leave collection ⟨host, .publish path findings⟩ = collection) ∧
      leave collection ⟨host, .withdraw path⟩ = collection := by
  simp [leave, outcome, publish, withdraw, unplaced, Except.map, Except.toOption]

end

theorem Call.Publishes.concerns {call : Call} {key : Text} {findings : List Diagnostic}
    (publishes : call.Publishes key findings) : call.Concerns key := by
  obtain ⟨path, asked, placed⟩ := publishes
  rw [Concerns, asked]
  exact placed

/-- A call leaves alone what it is not about. -/
theorem Call.find?_leave_of_not_concerns {call : Call} {key : Text} (apart : ¬ call.Concerns key)
    (collection : Collection) :
    Keyed.find? key (leave collection call).entries = Keyed.find? key collection.entries := by
  obtain ⟨host, request⟩ := call
  cases request with
  | publish path findings =>
      cases placed : host.canonical path with
      | error failure => rw [(leave_of_unplaced placed collection).1]
      | ok other =>
          have distinct : other ≠ key := by
            rintro rfl
            exact apart placed
          rw [leave_publish placed, Keyed.find?_put_of_ne distinct]
  | withdraw path =>
      cases placed : host.canonical path with
      | error failure => rw [(leave_of_unplaced placed collection).2]
      | ok other =>
          have distinct : other ≠ key := by
            rintro rfl
            exact apart placed
          rw [leave_withdraw placed, Keyed.find?_erase_of_ne distinct]
  | withdrawAll => exact absurd trivial apart

/-- After a call about a path, what it has published there is all that there is. -/
theorem Call.find?_leave_of_concerns {call : Call} {key : Text} (about : call.Concerns key)
    (collection : Collection) (findings : List Diagnostic) :
    Keyed.find? key (leave collection call).entries = some findings ↔
      call.Publishes key findings := by
  obtain ⟨host, request⟩ := call
  cases request with
  | publish path published =>
      have placed : host.canonical path = .ok key := about
      rw [leave_publish placed, Keyed.find?_put_self]
      simp [Publishes, placed]
  | withdraw path =>
      rw [leave_withdraw about, Keyed.find?_erase_self]
      simp [Publishes]
  | withdrawAll => simp [leave_withdrawAll, empty, Publishes]

theorem Call.nodup_paths_leave (call : Call) {collection : Collection}
    (distinct : collection.paths.Nodup) : (leave collection call).paths.Nodup := by
  obtain ⟨host, request⟩ := call
  cases request with
  | publish path findings =>
      cases placed : host.canonical path with
      | error failure =>
          rw [(leave_of_unplaced placed collection).1]
          exact distinct
      | ok key =>
          rw [leave_publish placed]
          exact Keyed.nodup_keys_put key findings distinct
  | withdraw path =>
      cases placed : host.canonical path with
      | error failure =>
          rw [(leave_of_unplaced placed collection).2]
          exact distinct
      | ok key =>
          rw [leave_withdraw placed]
          exact Keyed.nodup_keys_erase key distinct
  | withdrawAll => exact List.nodup_nil

/-! ### Calls one after another -/

theorem after_concat (calls : List Call) (call : Call) :
    after (calls ++ [call]) = Call.leave (after calls) call := List.foldl_concat ..

theorem not_stand_nil (key : Text) (findings : List Diagnostic) : ¬ Stand [] key findings := by
  rintro ⟨earlier, call, later, isNil, -⟩
  simp at isNil

/-- What stands after one more call is what this call has published, or what has stood before it if
the call is not about the path. -/
theorem stand_concat_iff {calls : List Call} {call : Call} {key : Text}
    {findings : List Diagnostic} :
    Stand (calls ++ [call]) key findings ↔
      call.Publishes key findings ∨ ¬ call.Concerns key ∧ Stand calls key findings := by
  constructor
  · rintro ⟨earlier, publisher, later, split, publishes, apart⟩
    rcases List.eq_nil_or_concat later with rfl | ⟨between, last, rfl⟩
    · obtain ⟨-, isLast⟩ := List.append_inj' split rfl
      obtain rfl := List.singleton_inj.mp isLast
      exact .inl publishes
    · have regrouped : calls ++ [call] = (earlier ++ publisher :: between) ++ [last] := by
        simpa using split
      obtain ⟨rfl, isLast⟩ := List.append_inj' regrouped rfl
      obtain rfl := List.singleton_inj.mp isLast
      refine .inr ⟨apart call (by simp), earlier, publisher, between, rfl, publishes, ?_⟩
      intro other member
      exact apart other (by simp [member])
  · rintro (publishes | ⟨isApart, earlier, publisher, later, rfl, publishes, apart⟩)
    · exact ⟨calls, call, [], rfl, publishes, by simp⟩
    · refine ⟨earlier, publisher, later ++ [call], by simp, publishes, ?_⟩
      intro other member
      rcases List.mem_append.mp member with isLater | isLast
      · exact apart other isLater
      · rw [List.mem_singleton.mp isLast]
        exact isApart

/-- The entries of a collection are what stands. -/
theorem find?_after_eq_some_iff (calls : List Call) (key : Text) (findings : List Diagnostic) :
    Keyed.find? key (after calls).entries = some findings ↔ Stand calls key findings := by
  induction calls using List.reverseRecOn with
  | nil => exact iff_of_false (by simp [after, empty]) (not_stand_nil key findings)
  | append_singleton calls call inductionHypothesis =>
      rw [after_concat, stand_concat_iff]
      by_cases about : call.Concerns key
      · rw [Call.find?_leave_of_concerns about]
        simp [about]
      · have silent : ¬ call.Publishes key findings := fun publishes => about publishes.concerns
        rw [Call.find?_leave_of_not_concerns about, inductionHypothesis]
        simp [about, silent]

theorem nodup_paths_after (calls : List Call) : (after calls).paths.Nodup := by
  induction calls using List.reverseRecOn with
  | nil => exact List.nodup_nil
  | append_singleton calls call inductionHypothesis =>
      rw [after_concat]
      exact call.nodup_paths_leave inductionHypothesis

theorem mem_paths_after_iff (calls : List Call) (key : Text) :
    key ∈ (after calls).paths ↔ ∃ findings, Stand calls key findings := by
  rw [paths, Keyed.mem_keys_iff]
  exact exists_congr (find?_after_eq_some_iff calls key)

/-! ### What a collection tells -/

/-- A collection tells what stands after some calls. The path that is looked up may be spelled in
any way and on any host; if it has no canonical form there, the look-up fails as well. -/
structure Tells (calls : List Call) (collection : Collection) : Prop where
  standing : ∀ (host : Host) (path key : Text) (findings : List Diagnostic),
    host.canonical path = .ok key → Stand calls key findings →
      collection.get path host = .ok findings ∧ collection.contains path host = .ok true
  nothing : ∀ (host : Host) (path key : Text), host.canonical path = .ok key →
    (∀ findings, ¬ Stand calls key findings) →
      collection.get path host = .ok [] ∧ collection.contains path host = .ok false
  unplaced : ∀ (host : Host) (path : Text) (failure : Failure),
    host.canonical path = .error failure →
      collection.get path host = .error failure ∧ collection.contains path host = .error failure
  distinct : collection.paths.Nodup
  mem_paths_iff : ∀ key, key ∈ collection.paths ↔ ∃ findings, Stand calls key findings
  size_eq : collection.size = Set.ncard {key | ∃ findings, Stand calls key findings}

/-- A call does not count for a path if it is not about its canonical form. -/
def LeavesOthers (collection : Collection) : Prop :=
  ∀ (call : Call) (host : Host) (path : Text),
    (∀ key, host.canonical path = .ok key → ¬ call.Concerns key) →
      (Call.leave collection call).get path host = collection.get path host ∧
        (Call.leave collection call).contains path host = collection.contains path host

theorem leavesOthers (collection : Collection) : LeavesOthers collection := by
  intro call host path apart
  cases placed : host.canonical path with
  | error failure => simp [get, contains, placed, Except.map]
  | ok key =>
      have same := Call.find?_leave_of_not_concerns (apart key placed) collection
      simp [get, contains, Keyed.has, placed, Except.map, same]

/-- After any calls, each path has the findings of the last call that has published some under its
canonical form, unless they have been withdrawn since; the paths are told one by one, and their
number is the size. A call is of no account for paths that it is not about. -/
theorem last_publication_stands (calls : List Call) :
    Tells calls (after calls) ∧ LeavesOthers (after calls) := by
  refine ⟨?_, leavesOthers _⟩
  constructor
  case standing =>
    intro host path key findings placed stand
    have found := (find?_after_eq_some_iff calls key findings).mpr stand
    simp [get, contains, Keyed.has, placed, Except.map, found]
  case nothing =>
    intro host path key placed none
    have absent : Keyed.find? key (after calls).entries = Option.none := by
      refine Option.eq_none_iff_forall_ne_some.mpr fun findings found => ?_
      exact none findings ((find?_after_eq_some_iff calls key findings).mp found)
    simp [get, contains, Keyed.has, placed, Except.map, absent]
  case unplaced =>
    intro host path failure failed
    simp [get, contains, failed, Except.map]
  case distinct => exact nodup_paths_after calls
  case mem_paths_iff => exact mem_paths_after_iff calls
  case size_eq =>
    have live : {key | ∃ findings, Stand calls key findings} =
        ↑(after calls).paths.toFinset := by
      ext key
      simp [mem_paths_after_iff calls key]
    rw [live, Set.ncard_coe_finset, List.toFinset_card_of_nodup (nodup_paths_after calls), size,
      paths, Keyed.keys, List.length_map]

/-- A host with a file and a link to it. -/
def aliasingHost : Host where
  tree :=
    ⟨[(["w"], .directory), (["w", "a.cue"], .file (.text "x: y")),
      (["w", "b.cue"], .link "a.cue")]⟩
  workingDirectory := FileTree.Spot.at ["w"]
  environment := []
  accountHome := none
  programs := []
  temporary := "/tmp"
  outcomes := []
  spawned := []
  drawn := 0
  journal := []

/-- A finding is published under the link, then none under the file, and a file that does not exist
is withdrawn. -/
def aliasingCalls : List Call :=
  [⟨aliasingHost, .publish "b.cue" [⟨0, 4, "error", "reference not found", "a.cue"⟩]⟩,
    ⟨aliasingHost, .publish "/w/a.cue" []⟩, ⟨aliasingHost, .withdraw "c.cue"⟩]

theorem empty_publication_stands :
    aliasingHost.canonical "../w/./b.cue" = .ok "/w/a.cue" ∧ Stand aliasingCalls "/w/a.cue" [] ∧
      (after aliasingCalls).get "../w/./b.cue" aliasingHost = .ok [] ∧
      (after aliasingCalls).contains "../w/./b.cue" aliasingHost = .ok true := by
  have placed : aliasingHost.canonical "../w/./b.cue" = .ok "/w/a.cue" := by decide +kernel
  have publishes : Call.Publishes ⟨aliasingHost, .publish "/w/a.cue" []⟩ "/w/a.cue" [] :=
    ⟨"/w/a.cue", rfl, by decide +kernel⟩
  have apart : ¬ Call.Concerns ⟨aliasingHost, .withdraw "c.cue"⟩ "/w/a.cue" := by
    change ¬ aliasingHost.canonical "c.cue" = .ok "/w/a.cue"
    decide +kernel
  have stand : Stand aliasingCalls "/w/a.cue" [] := by
    refine ⟨aliasingCalls.take 1, _, aliasingCalls.drop 2, rfl, publishes, ?_⟩
    intro other member
    obtain rfl := List.mem_singleton.mp member
    exact apart
  exact ⟨placed, stand, (last_publication_stands aliasingCalls).1.standing _ _ _ _ placed stand⟩

end Collection

end CueWatch
