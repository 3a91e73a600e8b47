import CueWatch.Proofs.Host.Files
import CueWatch.Proofs.Path.Spelling
import CueWatch.Proofs.Settings.Json.Limits
import CueWatch.Settings.Store

/-!
Contract: settings that have been saved are loaded again as they were, in their order.

Owns:
- `Reached`, the settings that come about by loading a file and changing settings;
- `Sound`, what all of them have in common: the defaults come first, no key occurs twice, and all
  values can be written and read again;
- the settings that are loaded from a directory after a setting has been changed there.

Does not own: the text of the file (`Proofs.Settings.Json`).
-/

namespace CueWatch.Settings.Store

/-! ### Settings that come about -/

/-- The most arrays and objects that can be inside each other in a setting: the settings are an
object themselves. -/
def valueNesting : Nat := Json.nestingLimit - 1

/-- The settings that come about by loading a file, or none, in which there are no binary64 numbers,
and then changing settings, whether or not they can be saved. A value that is changed inside is a
changed setting, too. -/
inductive Reached : Store → Prop
  | loaded {given : Option Text} {host : Host} {store : Store}
      (ran : ((load given).run host).1 = .ok store)
      (noFloat : ∀ field ∈ store.values, Json.FloatFree field.2) : Reached store
  | put {store : Store} (before : Reached store) (key : Key) {value : Value}
      (bounded : Json.Bounded valueNesting value) (noFloat : Json.FloatFree value) :
      Reached (store.put key value)
  | appended {store after : Store} (before : Reached store) {key : Key} {item : Value}
      (bounded : Json.Bounded (valueNesting - 1) item) (noFloat : Json.FloatFree item)
      (ran : store.append key item = .ok after) : Reached after

/-- Settings that can be saved and loaded again. -/
structure Sound (store : Store) : Prop where
  directory : store.directory.IsTidy
  starts : Keyed.keys defaults <+: Keyed.keys store.values
  distinct : (Keyed.keys store.values).Nodup
  bounded : ∀ field ∈ store.values, Json.Bounded valueNesting field.2
  noFloat : ∀ field ∈ store.values, Json.FloatFree field.2

theorem bounded_of_mem_defaults : ∀ field ∈ defaults, Json.Bounded valueNesting field.2 := by
  simp only [defaults, List.forall_mem_cons]
  exact ⟨.text _, .text _, .array (by rintro item ⟨⟩), .bool true, .text _, .text _,
    by rintro field ⟨⟩⟩

theorem floatFree_of_mem_defaults : ∀ field ∈ defaults, Json.FloatFree field.2 := by
  simp only [defaults, List.forall_mem_cons]
  exact ⟨.text _, .text _, .array (by rintro item ⟨⟩), .bool true, .text _, .text _,
    by rintro field ⟨⟩⟩

/-- The values that loading can give: the defaults with additions put over them that keep to the
limits of the reader. -/
def IsOverlay (values : Keyed Key Value) : Prop :=
  ∃ additions, (∀ field ∈ additions, Json.Bounded valueNesting field.2) ∧
    values = Keyed.merge defaults additions

theorem isOverlay_defaults : IsOverlay defaults := ⟨[], by rintro field ⟨⟩, rfl⟩

theorem isOverlay_of_overlay {text : Text} {values : Keyed Key Value} {note : Option Text}
    (ran : overlay text = .ok (values, note)) : IsOverlay values := by
  unfold overlay at ran
  split at ran
  next fields isRead =>
    obtain ⟨rfl, -⟩ := Prod.mk.inj (Except.ok.inj ran)
    refine ⟨fields, ?_, rfl⟩
    cases Json.bounded_of_read isRead with
    | object _ each => exact each
  next =>
    obtain ⟨rfl, -⟩ := Prod.mk.inj (Except.ok.inj ran)
    exact isOverlay_defaults
  next =>
    obtain ⟨rfl, -⟩ := Prod.mk.inj (Except.ok.inj ran)
    exact isOverlay_defaults
  next => cases ran
  next => cases ran

theorem isOverlay_of_read {directory : Pathname} {host : Host} {values : Keyed Key Value}
    (ran : ((read directory).run host).1 = .ok values) : IsOverlay values := by
  unfold read at ran
  obtain ⟨-, made, -, ran⟩ := Attempt.exists_of_run_bind_ok ran
  obtain ⟨present, _, -, ran⟩ := Attempt.exists_of_run_bind_ok ran
  split at ran
  next =>
    obtain ⟨outcome, reached, looked, ran⟩ := Attempt.exists_of_run_bind_ok ran
    cases outcome with
    | ok text =>
        obtain ⟨⟨found, note⟩, _, overlaid, ran⟩ := Attempt.exists_of_run_bind_ok ran
        rw [Attempt.run_ofExcept] at overlaid
        obtain ⟨-, _, -, ran⟩ := Attempt.exists_of_run_bind_ok ran
        obtain rfl := Except.ok.inj ran
        exact isOverlay_of_overlay (Prod.mk.inj overlaid).1
    | error failure =>
        dsimp only at ran
        split at ran
        next =>
          obtain ⟨-, _, -, ran⟩ := Attempt.exists_of_run_bind_ok ran
          obtain rfl := Except.ok.inj ran
          exact isOverlay_defaults
        next => cases ran
  next =>
    obtain rfl := Except.ok.inj ran
    exact isOverlay_defaults

theorem isTidy_of_directoryFor {given : Option Text} {host : Host} {directory : Pathname}
    (found : directoryFor given host = .ok directory) : directory.IsTidy := by
  unfold directoryFor at found
  split at found
  next =>
    obtain rfl := Except.ok.inj found
    exact Pathname.isTidy_ofText _
  next =>
    unfold standardDirectory Host.home at found
    split at found
    next => cases found
    next =>
      obtain rfl := Except.ok.inj found
      exact (Pathname.isTidy_ofText _).child (by decide)

theorem sound_of_load {given : Option Text} {host : Host} {store : Store}
    (ran : ((load given).run host).1 = .ok store)
    (noFloat : ∀ field ∈ store.values, Json.FloatFree field.2) : Sound store := by
  unfold load at ran
  obtain ⟨directory, made, required, ran⟩ := Attempt.exists_of_run_bind_ok ran
  rw [Attempt.run_require] at required
  obtain ⟨values, _, isRead, ran⟩ := Attempt.exists_of_run_bind_ok ran
  obtain rfl := Except.ok.inj ran
  obtain ⟨additions, bounded, same⟩ := isOverlay_of_read (congrArg Prod.fst isRead)
  subst same
  exact
    { directory := isTidy_of_directoryFor (Prod.mk.inj required).1
      starts := Keyed.keys_prefix_merge defaults additions
      distinct := Keyed.nodup_keys_merge (by decide) additions
      bounded := fun field member =>
        (Keyed.mem_merge member).elim (bounded_of_mem_defaults field) (bounded field)
      noFloat := noFloat }

/-! ### Changes -/

theorem Sound.put {store : Store} (sound : Sound store) (key : Key) {value : Value}
    (bounded : Json.Bounded valueNesting value) (noFloat : Json.FloatFree value) :
    Sound (store.put key value) where
  directory := sound.directory
  starts := sound.starts.trans (Keyed.keys_prefix_put key value store.values)
  distinct := Keyed.nodup_keys_put key value sound.distinct
  bounded := by
    intro field member
    rcases Keyed.mem_put member with rfl | earlier
    · exact bounded
    · exact sound.bounded field earlier
  noFloat := by
    intro field member
    rcases Keyed.mem_put member with rfl | earlier
    · exact noFloat
    · exact sound.noFloat field earlier

theorem Sound.append {store after : Store} (sound : Sound store) {key : Key} {item : Value}
    (bounded : Json.Bounded (valueNesting - 1) item) (noFloat : Json.FloatFree item)
    (ran : store.append key item = .ok after) : Sound after := by
  unfold Store.append at ran
  split at ran
  next items found =>
    obtain rfl := Except.ok.inj ran
    have member := Keyed.mem_of_find? found
    obtain ⟨⟩ | ⟨⟩ | ⟨⟩ | ⟨⟩ | ⟨⟩ | ⟨⟩ | eachBounded := sound.bounded _ member
    obtain ⟨⟩ | ⟨⟩ | ⟨⟩ | ⟨⟩ | ⟨⟩ | eachFree := sound.noFloat _ member
    refine sound.put key (.array fun i isItem => ?_) (.array fun i isItem => ?_)
    · rcases List.mem_append.mp isItem with old | new
      · exact eachBounded i old
      · rwa [List.mem_singleton.mp new]
    · rcases List.mem_append.mp isItem with old | new
      · exact eachFree i old
      · rwa [List.mem_singleton.mp new]
  next => cases ran

/-- All settings that come about can be saved and loaded again. -/
theorem sound_of_reached {store : Store} (reached : Reached store) : Sound store := by
  induction reached with
  | loaded ran noFloat => exact sound_of_load ran noFloat
  | put _ key bounded noFloat inductionHypothesis =>
      exact inductionHypothesis.put key bounded noFloat
  | appended _ bounded noFloat ran inductionHypothesis =>
      exact inductionHypothesis.append bounded noFloat ran

/-! ### Saving and loading -/

/-- The text of sound settings is read as the values that they hold. -/
theorem Sound.overlay_written {store : Store} (sound : Sound store) :
    overlay (Text.universalNewlines (Json.write (.object store.values))) =
      .ok (store.values, none) := by
  have bounded : Json.Bounded Json.nestingLimit (.object store.values) :=
    .object sound.distinct sound.bounded
  have noFloat : Json.FloatFree (.object store.values) := .object sound.noFloat
  have noReturn : '\r' ∉ Json.write (.object store.values) := Json.return_notMem_writeAt noFloat 0
  rw [Text.universalNewlines_eq_self noReturn, overlay, Json.read_write bounded noFloat]
  dsimp only
  rw [Keyed.merge_of_keys_prefix sound.starts sound.distinct]

/-- Sound settings that have been saved are read again from their directory. -/
theorem Sound.read_saved {store : Store} (sound : Sound store) {host saved : Host}
    (ran : store.save.run host = (.ok (), saved)) :
    (read store.directory).run saved = (.ok store.values, saved) := by
  have tidy := sound.directory.withoutEndSlashes
  unfold save at ran
  rcases made : (Host.makeDirectories store.directory).run host with ⟨failure | ⟨⟩, between⟩
  · rw [Attempt.run_bind_of_error made] at ran
    cases ran
  · rw [Attempt.run_bind_of_ok made] at ran
    -- The directory that was made for saving is still there for loading, with the file in it.
    obtain ⟨grown, present, written⟩ := Host.readText_of_writeText ran
    have isThere := grown.isDirectory? (Host.isDirectory?_of_makeDirectoriesFrom tidy made)
    rw [read, Attempt.run_bind_of_ok (Host.run_makeDirectories_of_isDirectory? tidy isThere)]
    have required : (Attempt.require (Host.isPresent (fileIn store.directory).text)).run saved =
        (.ok true, saved) := congrArg (·, saved) present
    have found : Host.readText (fileIn store.directory).text saved = .ok _ := written
    dsimp only
    rw [Attempt.run_bind_of_ok required, if_pos rfl,
      Attempt.run_bind_of_ok (Attempt.run_look _ _), found]
    dsimp only
    rw [Attempt.run_bind_of_ok (by rw [Attempt.run_ofExcept, sound.overlay_written])]
    rfl

/-- Settings that have come about by loading and changing, and a setting that is then changed and
saved, are loaded again from the same directory: the same values in the same order, with the
changed one among them and every default present. -/
theorem loaded_as_saved {store : Store} (reached : Reached store) (key : Key) {value : Value}
    (bounded : Json.Bounded valueNesting value) (noFloat : Json.FloatFree value)
    {host saved : Host} (ran : (store.put key value).save.run host = (.ok (), saved))
    {given : Option Text} (same : directoryFor given saved = .ok store.directory) :
    ∃ loaded, ((load given).run saved).1 = .ok loaded ∧
      loaded.values = (store.put key value).values ∧ loaded.get? key = some value ∧
      ∀ name ∈ Keyed.keys defaults, (loaded.get? name).isSome := by
  have sound := (sound_of_reached reached).put key bounded noFloat
  have isRead : (read store.directory).run saved = (.ok (store.put key value).values, saved) :=
    sound.read_saved ran
  refine ⟨store.put key value, ?_, rfl, Keyed.find?_put_self key value store.values, ?_⟩
  · have required : (Attempt.require (directoryFor given)).run saved =
        (.ok store.directory, saved) := congrArg (·, saved) same
    rw [load, Attempt.run_bind_of_ok required, Attempt.run_bind_of_ok isRead]
    rfl
  · intro name isDefault
    exact Keyed.isSome_find? (sound.starts.subset isDefault)

/-- A host with a file of settings. -/
def hostWithSettings : Host where
  tree :=
    ⟨[(["s"], .directory),
      (["s", "config.json"], .file (.text "[1]"))]⟩
  workingDirectory := FileTree.Spot.root
  environment := []
  accountHome := none
  programs := []
  temporary := "/tmp"
  outcomes := []
  spawned := []
  drawn := 0
  journal := []

/-- The settings that are loaded when the file holds no object. -/
def plainSettings : Store := ⟨Pathname.ofText "/s", defaults⟩

/-- A value with escapes, a whole number below zero and empty containers. -/
def note : Value :=
  .array [.text ['é', Char.ofNat 0x1F600, '"', '\n'], .int (-12), .object [("", .null)], .object []]

/-- The host after the value has been put into the settings. -/
def hostWithNote : Host := ((plainSettings.put "note" note).save.run hostWithSettings).2

theorem bounded_note : Json.Bounded valueNesting note := by
  have digits : (Text.decimal 12).length ≤ 2 := Text.length_decimal_le (by decide) (by decide)
  have short : Json.IsReadable (-12) := Nat.le_trans digits (by decide)
  have field : ∀ field ∈ [((([] : Text) : Key), Value.null)],
      Json.Bounded (valueNesting - 2) field.2 :=
    List.forall_mem_cons.mpr ⟨.null, by rintro field ⟨⟩⟩
  refine .array ?_
  simp only [List.forall_mem_cons]
  exact ⟨.text _, .int short, .object (by decide) field, .object (by decide) (by rintro field ⟨⟩),
    by rintro item ⟨⟩⟩

theorem floatFree_note : Json.FloatFree note := by
  have field : ∀ field ∈ [((([] : Text) : Key), Value.null)], Json.FloatFree field.2 :=
    List.forall_mem_cons.mpr ⟨.null, by rintro field ⟨⟩⟩
  refine .array ?_
  simp only [List.forall_mem_cons]
  exact ⟨.text _, .int _, .object field, .object (by rintro field ⟨⟩), by rintro item ⟨⟩⟩

theorem note_loaded_as_saved :
    Reached plainSettings ∧
    (plainSettings.put "note" note).save.run hostWithSettings = (.ok (), hostWithNote) ∧
    ∃ loaded, ((load (some "/s")).run hostWithNote).1 = .ok loaded ∧
      loaded.values = defaults ++ [(("note" : Key), note)] ∧ loaded.get? "note" = some note := by
  have reached : Reached plainSettings :=
    @Reached.loaded (some "/s") hostWithSettings plainSettings rfl floatFree_of_mem_defaults
  have saved : (plainSettings.put "note" note).save.run hostWithSettings = (.ok (), hostWithNote) :=
    Prod.ext rfl rfl
  have same : directoryFor (some "/s") hostWithNote = .ok plainSettings.directory := rfl
  obtain ⟨loaded, ran, values, found, -⟩ :=
    loaded_as_saved reached "note" bounded_note floatFree_note saved same
  exact ⟨reached, saved, loaded, ran, values, found⟩

end CueWatch.Settings.Store
