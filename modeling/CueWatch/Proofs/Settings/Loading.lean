import CueWatch.Proofs.Settings.Persistence
import Mathlib.Control.Monad.Basic

/-!
Contract: what is loaded from a directory whose file of settings holds any content whatever.

Owns:
- `Overlays`, the settings in which the members of an object are put over the defaults;
- `Refused`, the contents that stop the program that loads them, and why;
- `loaded_unless_refused`, that every other content is loaded: an object over the defaults, anything
  else as if there were no file.

Does not own: which texts spell an object (`Proofs.Settings.Json.Grammar`), and settings that the
program has saved itself (`Proofs.Settings.Persistence`).
-/

namespace CueWatch.Settings.Store

/-! ### What a file gives -/

/-- Settings in which every key has its last value among the members, or else the default; the
defaults come first, and behind them the other keys of the members in the order in which they first
appear. -/
structure Overlays (members : List (Key × Value)) (values : Keyed Key Value) : Prop where
  last : ∀ key, Keyed.find? key values =
    (Keyed.find? key members.reverse).or (Keyed.find? key defaults)
  keys : Keyed.keys values =
    Keyed.keys defaults ++ ((Keyed.keys members).removeAll (Keyed.keys defaults)).eraseDups

theorem overlays_merge (members : List (Key × Value)) :
    Overlays members (Keyed.merge defaults members) :=
  ⟨fun key => Keyed.find?_merge key defaults members, Keyed.keys_merge defaults members⟩

/-- A content that is the text of an object with these members. -/
def HoldsObject (content : Content) (members : List (Key × Value)) : Prop :=
  ∃ text, content.read = .ok text ∧ Json.IsObjectText text members

/-- A content that stops the program that loads it, and the failure: it is no text, or its text goes
beyond what is read of numbers and of nesting. -/
inductive Refused (content : Content) : Failure → Prop
  | undecodable {fault : Text.Utf8.Fault} (isNoText : content.read = .error fault) :
      Refused content (.undecodable fault)
  | tooManyDigits {text : Text} {count : Nat} (isText : content.read = .ok text)
      (isRefused : Json.read text = .error (.tooManyDigits count)) :
      Refused content (.tooManyDigits count)
  | nestedTooDeeply {text kind : Text} (isText : content.read = .ok text)
      (isRefused : Json.read text = .error (.tooDeep kind)) :
      Refused content (.nestedTooDeeply kind)

/-- Only bytes that are no text are refused, and texts that go beyond the limits of the reader. -/
theorem exceeds_of_refused {content : Content} {failure : Failure}
    (refused : Refused content failure) :
    (∃ fault, content.read = .error fault) ∨
      ∃ text fault, content.read = .ok text ∧ Json.Exceeds Json.nestingLimit text fault := by
  cases refused with
  | undecodable isNoText => exact .inl ⟨_, isNoText⟩
  | tooManyDigits isText isRefused | nestedTooDeeply isText isRefused =>
      exact .inr ⟨_, _, isText, Json.exceeds_of_read isRefused (by rintro ⟨⟩)⟩

/-! ### Reading the file -/

section

variable {given : Option Text} {host : Host} {directory : Pathname} {content : Content}

theorem isPresent_of_content {path : Text} (holds : host.content path = .ok content) :
    Host.isPresent path host = .ok true := by
  unfold Host.content at holds
  split at holds
  next => cases holds
  next found => rw [Host.isPresent, found]
  next => cases holds

theorem readText_of_content {path : Text} (holds : host.content path = .ok content) :
    Host.readText path host = content.read.mapError .undecodable := by
  rw [Host.readText, holds]
  dsimp only
  cases content.read <;> rfl

/-- The values that are read are those of the file's text, whatever is noted about it. -/
theorem run_read_of_content (tidy : Spelling.withoutEndSlashes directory.text = directory.text)
    (isThere : host.isDirectory? directory.text = true)
    (holds : host.content (fileIn directory).text = .ok content) :
    ((read directory).run host).1 =
      match content.read with
      | .ok text => (overlay text).map Prod.fst
      | .error fault => .error (.undecodable fault) := by
  have looked : (Attempt.require (Host.isPresent (fileIn directory).text)).run host =
      (.ok true, host) := congrArg (·, host) (isPresent_of_content holds)
  rw [read, Attempt.run_bind_of_ok (Host.run_makeDirectories_of_isDirectory? tidy isThere)]
  dsimp only
  rw [Attempt.run_bind_of_ok looked, if_pos rfl, Attempt.run_bind_of_ok (Attempt.run_look _ _),
    readText_of_content holds]
  cases content.read with
  | error fault => rfl
  | ok text =>
      dsimp only [Except.mapError]
      cases overlaid : overlay text with
      | error failure => rfl
      | ok pair =>
          obtain ⟨values, note⟩ := pair
          cases note <;> rfl

theorem run_load (directed : directoryFor given host = .ok directory) :
    ((load given).run host).1 =
      ((read directory).run host).1.map fun values => ⟨directory, values⟩ := by
  have required : (Attempt.require (directoryFor given)).run host = (.ok directory, host) :=
    congrArg (·, host) directed
  rw [load, Attempt.run_bind_of_ok required, Attempt.run_bind]
  rcases (read directory).run host with ⟨failure | values, reached⟩ <;> rfl

/-- The settings that are loaded are those of the file's text. -/
theorem run_load_of_content (directed : directoryFor given host = .ok directory)
    (isThere : host.isDirectory? directory.text = true)
    (holds : host.content (fileIn directory).text = .ok content) :
    ((load given).run host).1 =
      match content.read with
      | .ok text => (overlay text).map fun overlaid => ⟨directory, overlaid.1⟩
      | .error fault => .error (.undecodable fault) := by
  have tidy := (isTidy_of_directoryFor directed).withoutEndSlashes
  rw [run_load directed, run_read_of_content tidy isThere holds]
  cases content.read with
  | error fault => rfl
  | ok text =>
      dsimp only
      cases overlay text <;> rfl

end

/-! ### Every content -/

theorem overlay_of_isObjectText {text : Text} {members : List (Key × Value)}
    (spells : Json.IsObjectText text members) :
    overlay text = .ok (Keyed.merge defaults members, none) := by
  rw [overlay, Json.read_of_isObjectText spells]
  dsimp only
  rw [Keyed.merge_merge]

/-- A text that is not refused and spells no object gives the defaults. -/
theorem overlay_of_noObject {text : Text} (noObject : ∀ members, ¬ Json.IsObjectText text members)
    (noDigits : ∀ count, Json.read text ≠ .error (.tooManyDigits count))
    (noDepth : ∀ kind, Json.read text ≠ .error (.tooDeep kind)) :
    ∃ note, overlay text = .ok (defaults, note) := by
  unfold overlay
  split
  next fields isRead =>
    obtain ⟨members, spells, -⟩ := Json.exists_isObjectText_of_read isRead
    exact absurd spells (noObject members)
  next => exact ⟨_, rfl⟩
  next => exact ⟨_, rfl⟩
  next count refused => exact absurd refused (noDigits count)
  next kind refused => exact absurd refused (noDepth kind)

theorem holdsObject_iff {content : Content} {text : Text} (isText : content.read = .ok text)
    (members : List (Key × Value)) :
    HoldsObject content members ↔ Json.IsObjectText text members := by
  refine ⟨?_, fun spells => ⟨text, isText, spells⟩⟩
  rintro ⟨_, isOther, spells⟩
  obtain rfl := Except.ok.inj (isText.symm.trans isOther)
  exact spells

/-- However the text of an object is taken apart, its members give the same settings. -/
theorem overlays_of_isObjectText {text : Text} {members others : List (Key × Value)}
    (spells : Json.IsObjectText text members) (othersSpelled : Json.IsObjectText text others) :
    Overlays others (Keyed.merge defaults members) := by
  have same := overlay_of_isObjectText othersSpelled
  rw [overlay_of_isObjectText spells] at same
  obtain ⟨same, -⟩ := Prod.mk.inj (Except.ok.inj same)
  rw [same]
  exact overlays_merge others

/-- A content that is not refused gives what it should. -/
theorem exists_overlay_of_accepted {content : Content} {text : Text}
    (isText : content.read = .ok text) (accepted : ∀ failure, ¬ Refused content failure) :
    ∃ values note, overlay text = .ok (values, note) ∧
      (∀ members, HoldsObject content members → Overlays members values) ∧
      ((∀ members, ¬ HoldsObject content members) → values = defaults) := by
  simp only [holdsObject_iff isText]
  by_cases object : ∃ members, Json.IsObjectText text members
  · obtain ⟨members, spells⟩ := object
    exact ⟨_, _, overlay_of_isObjectText spells, fun _ => overlays_of_isObjectText spells,
      fun none => absurd spells (none members)⟩
  · have noObject := not_exists.mp object
    obtain ⟨note, overlaid⟩ := overlay_of_noObject noObject
      (fun count refused => accepted _ (.tooManyDigits isText refused))
      (fun kind refused => accepted _ (.nestedTooDeeply isText refused))
    exact ⟨_, _, overlaid, fun members spells => absurd spells (noObject members), fun _ => rfl⟩

/-- Settings are loaded from every content of their file that is not refused: the members of an
object are put over the defaults, and any other content is passed over. A content that is refused,
for what is wrong with it, stops the program that loads it. -/
theorem loaded_unless_refused {given : Option Text} {host : Host} {directory : Pathname}
    {content : Content} (directed : directoryFor given host = .ok directory)
    (isThere : host.isDirectory? directory.text = true)
    (holds : host.content (fileIn directory).text = .ok content) :
    (∀ failure, Refused content failure →
      ((load given).run host).1 = .error failure ∧
        ((∃ fault, content.read = .error fault) ∨ ∃ text fault, content.read = .ok text ∧
          Json.Exceeds Json.nestingLimit text fault)) ∧
    ((∀ failure, ¬ Refused content failure) →
      ∃ values, ((load given).run host).1 = .ok ⟨directory, values⟩ ∧
        (∀ members, HoldsObject content members → Overlays members values) ∧
        ((∀ members, ¬ HoldsObject content members) → values = defaults)) := by
  have ran := run_load_of_content directed isThere holds
  refine ⟨fun failure refused => ⟨?_, exceeds_of_refused refused⟩, fun accepted => ?_⟩
  · rw [ran]
    cases refused with
    | undecodable isNoText => rw [isNoText]
    | tooManyDigits isText isRefused | nestedTooDeeply isText isRefused =>
        rw [isText]
        dsimp only
        rw [overlay, isRefused]
        rfl
  · cases isText : content.read with
    | error fault => exact absurd (.undecodable isText) (accepted _)
    | ok text =>
        obtain ⟨values, note, overlaid, gives⟩ := exists_overlay_of_accepted isText accepted
        refine ⟨values, ?_, gives⟩
        rw [ran, isText]
        dsimp only
        rw [overlaid]
        rfl

/-- The text of an object that gives one key again and one key that has a default. -/
def membersText : Text := "\x7b\"b\": 1, \"cue_binary\": null, \"a\": 2, \"b\": true\x7d"

/-- A host whose file of settings in `/s` has a content. -/
def hostHolding (content : Content) : Host :=
  { hostWithSettings with
    tree := ⟨[(["s"], .directory), (["s", "config.json"], .file content)]⟩ }

theorem members_loaded_over_defaults :
    (∀ failure, ¬ Refused (.text membersText) failure) ∧
    (∃ members, HoldsObject (.text membersText) members) ∧
    ∃ store, ((load (some "/s")).run (hostHolding (.text membersText))).1 = .ok store ∧
      store.get? "b" = some (.bool true) ∧ store.get? "cue_binary" = some .null ∧
      store.get? "lint_on_save" = some (.bool true) := by
  have isText : (Content.text membersText).read = .ok membersText := rfl
  have isRead : Json.read membersText =
      .ok (.object [("b", .bool true), ("cue_binary", .null), ("a", .int 2)]) := by
    decide +kernel
  have accepted : ∀ failure, ¬ Refused (.text membersText) failure := by
    intro failure refused
    cases refused with
    | undecodable isNoText => cases isText.symm.trans isNoText
    | tooManyDigits isOther isRefused | nestedTooDeeply isOther isRefused =>
        obtain rfl := Except.ok.inj (isText.symm.trans isOther)
        cases isRead.symm.trans isRefused
  obtain ⟨members, spells, merged⟩ := Json.exists_isObjectText_of_read isRead
  have object : HoldsObject (.text membersText) members := ⟨membersText, isText, spells⟩
  have directed : directoryFor (some "/s") (hostHolding (.text membersText)) =
      .ok (Pathname.ofText "/s") := rfl
  obtain ⟨values, ran, overlays, -⟩ :=
    (loaded_unless_refused directed (by decide) (by decide)).2 accepted
  have found : ∀ key, Keyed.find? key values =
      (Keyed.find? key (Keyed.merge [] members)).or (Keyed.find? key defaults) := by
    intro key
    rw [(overlays members object).last key, Keyed.find?_merge]
    simp
  rw [← merged] at found
  exact ⟨accepted, ⟨members, object⟩, _, ran, found _, found _, found _⟩

/-- Half of a pair of units is a key of its own, other than the replacement character. -/
example : overlay "\x7b\"\\ufffd\": 3, \"\\ud800\": 1\x7d" =
    .ok (defaults ++ [(.text [Char.ofNat 0xFFFD], .int 3), (.torn (.ofHalf 0), .int 1)], none) := by
  decide +kernel

/-- A single byte that is no text stops the program. -/
theorem undecodable_byte_stops :
    ((load (some "/s")).run (hostHolding (.bytes [0xFF]))).1 =
      .error (.undecodable ⟨0xFF, 0, 1, .invalidStart⟩) := by
  decide +kernel

end CueWatch.Settings.Store
