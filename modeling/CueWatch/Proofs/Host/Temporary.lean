import CueWatch.Proofs.Host.Upkeep
import CueWatch.Proofs.Path.Spelling
import CueWatch.Proofs.Text.Numeral

/-!
Contract: temporary directories are new, and differ from one another.

Owns:
- that the digits of a temporary name tell the number that was drawn;
- `IsTemporary`, the paths that end with such digits, and what is written behind them;
- which directory is made when a temporary one is asked for, that nothing was there before, and that
  it holds nothing.

Does not own: when temporary directories are made (`Scratch`).
-/

namespace CueWatch.Host

open Attempt

/-! ### Temporary names -/

theorem numeralValue_temporaryDigits (number : Nat) :
    Text.numeralValue (temporaryDigits number) = number := by
  have zeros : ∀ count, (List.replicate count '0').foldl Text.appendDigit 0 = 0 := by
    intro count
    induction count with
    | zero => rfl
    | succ count inductionHypothesis =>
        rw [List.replicate_succ, List.foldl_cons]
        exact inductionHypothesis
  rw [temporaryDigits, Text.numeralValue, List.foldl_append, zeros]
  exact Text.numeralValue_decimal number

theorem temporaryDigits_inj {number other : Nat}
    (same : temporaryDigits number = temporaryDigits other) : number = other := by
  rw [← numeralValue_temporaryDigits number, same, numeralValue_temporaryDigits]

theorem isDigit_of_mem_temporaryDigits {number : Nat} {c : Char}
    (member : c ∈ temporaryDigits number) : Text.isDigit c = true := by
  rcases List.mem_append.mp member with zero | digit
  · rw [(List.mem_replicate.mp zero).2]
    exact Text.isDigit_digitChar (Nat.zero_lt_succ 9)
  · exact Text.isDigit_of_mem_decimal number c digit

theorem slash_notMem_temporaryDigits (number : Nat) : '/' ∉ temporaryDigits number := by
  intro member
  have digit := isDigit_of_mem_temporaryDigits member
  revert digit
  decide

theorem temporaryDigits_inj_of_slash {number other : Nat} {rest more : Text}
    (same : temporaryDigits number ++ '/' :: rest = temporaryDigits other ++ '/' :: more) :
    number = other := by
  have pieces := congrArg (Text.splitOn '/') same
  rw [Text.splitOn_piece (slash_notMem_temporaryDigits number),
    Text.splitOn_piece (slash_notMem_temporaryDigits other)] at pieces
  exact temporaryDigits_inj (List.cons.inj pieces).1

/-- A component that ends with a digit names an entry. -/
theorem isPlain_of_digit {name : Text} (single : '/' ∉ name) {c : Char}
    (ends : name.getLast? = some c) (digit : Text.isDigit c = true) : Spelling.IsPlain name where
  nonempty := by
    rintro rfl
    cases ends
  notHere := by
    rintro rfl
    obtain rfl := Option.some.inj ends
    revert digit
    decide
  notUp := by
    rintro rfl
    obtain rfl := Option.some.inj ends
    revert digit
    decide
  single := single

/-- A path ends with the digits of a temporary name. -/
def IsTemporary (path : Text) : Prop :=
  ∃ before number, path = before ++ temporaryDigits number

namespace IsTemporary

variable {path : Text}

theorem getLast?_digit (temporary : IsTemporary path) :
    ∃ c, path.getLast? = some c ∧ Text.isDigit c = true := by
  obtain ⟨before, number, rfl⟩ := temporary
  refine ⟨Text.digitChar (number % 10), ?_, Text.isDigit_digitChar (Nat.mod_lt _ (by decide))⟩
  rw [List.getLast?_append, temporaryDigits, List.getLast?_append, Text.getLast?_decimal]
  rfl

theorem getLast? (temporary : IsTemporary path) : ∃ c, path.getLast? = some c ∧ c ≠ '/' := by
  obtain ⟨c, ends, digit⟩ := temporary.getLast?_digit
  refine ⟨c, ends, ?_⟩
  rintro rfl
  revert digit
  decide

theorem withoutEndSlashes (temporary : IsTemporary path) :
    Spelling.withoutEndSlashes path = path := by
  obtain ⟨c, ends, solid⟩ := temporary.getLast?
  exact Spelling.withoutEndSlashes_of_getLast? ends solid

/-- What is seen from a temporary path is written behind it. -/
theorem append (temporary : IsTemporary path) {name : Text}
    (relative : Spelling.isAbsolute name = false) :
    Spelling.append path name = path ++ '/' :: name := by
  obtain ⟨c, ends, solid⟩ := temporary.getLast?
  exact Spelling.append_of_getLast? ends solid relative

/-- The last component of a temporary path names an entry, since it ends with a digit. -/
theorem exists_last (temporary : IsTemporary path) :
    ∃ name, Spelling.IsPlain name ∧ (path = name ∨ ∃ base, path = base ++ '/' :: name) := by
  obtain ⟨c, ends, digit⟩ := temporary.getLast?_digit
  by_cases slashed : '/' ∈ path
  · obtain ⟨last, before, reversed, single⟩ :=
      List.eq_append_cons_of_mem (List.mem_reverse.mpr slashed)
    have split : path = before.reverse ++ '/' :: last.reverse := by
      rw [← List.reverse_reverse path, reversed]
      simp
    have single : '/' ∉ last.reverse := fun member => single (List.mem_reverse.mp member)
    refine ⟨last.reverse, ?_, .inr ⟨before.reverse, split⟩⟩
    rw [split, List.getLast?_append_cons] at ends
    generalize last.reverse = name at single ends
    cases name with
    | nil =>
        have slash : '/' = c := Option.some.inj ends
        subst slash
        exact absurd digit (by decide)
    | cons d name => exact isPlain_of_digit single ends digit
  · exact ⟨path, isPlain_of_digit slashed ends digit, .inl rfl⟩

end IsTemporary

theorem isTemporary_append (directory start : Text) (number : Nat) :
    IsTemporary (Spelling.append directory (start ++ temporaryDigits number)) := by
  unfold Spelling.append
  split
  · exact ⟨start, number, rfl⟩
  · split
    · exact ⟨directory ++ start, number, (List.append_assoc _ _ _).symm⟩
    · refine ⟨directory ++ '/' :: start, number, ?_⟩
      rw [List.append_assoc, List.cons_append]

/-! ### Making a temporary directory -/

/-- A temporary directory is made under a number that was not drawn before. -/
theorem exists_of_makeTemporary {start directory path : Text} {host made : Host}
    (ran : (makeTemporary start directory).run host = (.ok path, made)) :
    ∃ number, host.drawn < number ∧
      path = Spelling.append directory (start ++ temporaryDigits number) ∧
      (makeDirectory path).run { host with drawn := number } = (.ok (), made) := by
  rw [makeTemporary, run_bind_of_ok (run_look _ host)] at ran
  generalize host.tree.entries.length + 1 = draws at ran
  induction draws generalizing host with
  | zero => cases ran
  | succ draws inductionHypothesis =>
      let drawn : Host := { host with drawn := host.drawn + 1 }
      rw [makeTemporaryFrom, run_bind_of_ok (run_change _ host),
        run_bind_of_ok (run_look _ drawn), run_rescue] at ran
      generalize isPath : Spelling.append directory (start ++ temporaryDigits drawn.drawn) =
        candidate at ran
      rcases tried : (makeDirectory candidate).run drawn with ⟨failure | _, reached⟩
      · rw [run_bind_of_error tried] at ran
        obtain rfl := eq_of_makeDirectory_error tried
        dsimp only at ran
        split at ran
        next =>
          obtain ⟨number, later, written, isMade⟩ := inductionHypothesis ran
          exact ⟨number, Nat.lt_of_succ_lt later, written, isMade⟩
        next => cases ran
      · rw [run_bind_of_ok tried] at ran
        obtain ⟨same, rfl⟩ := Prod.mk.inj ran
        obtain rfl := Except.ok.inj same
        exact ⟨host.drawn + 1, Nat.lt_succ_self _, isPath.symm, tried⟩

/-- Where a directory was made there was nothing before, as long as the tree has only grown. -/
theorem absent_before_makeDirectory {path : Text} {earlier host made : Host}
    (grown : Grown host earlier) (tidy : Spelling.withoutEndSlashes path = path)
    (ran : (makeDirectory path).run host = (.ok (), made)) :
    ∀ found, earlier.find false path ≠ .ok found := by
  rintro ⟨spot, entry⟩ found
  obtain ⟨place, asDirectory, leads, -⟩ := exists_of_makeDirectory ran
  rw [tidy] at leads
  obtain ⟨led, -⟩ := find_eq_ok_iff.mp found
  have still := (grown.leads led (.taken spot)).2
  rw [leads.2] at still
  cases still

theorem content_eq_ok_iff {path : Text} {host : Host} {content : Content} :
    host.content path = .ok content ↔
      ∃ spot, host.find true path = .ok (spot, .file content) := by
  rw [Host.content]
  rcases host.find true path with failure | ⟨spot, _ | own | _⟩ <;> simp

/-- A path to a directory and one name further lead to what stands there under that name. -/
theorem Leads.child {host : Host} {followLast : Bool} {path name : Text} {own : Path}
    {place : FileTree.Place} (found : host.find true path = .ok (FileTree.Spot.at own, .directory))
    (plain : Spelling.IsPlain name)
    (isEnd : FileTree.IsEnd host.tree followLast (own ++ [name]))
    (leads : Leads host followLast (path ++ '/' :: name) place) :
    host.tree.child own name = .ok place := by
  obtain ⟨⟨_, toDirectory⟩, isThere⟩ := find_eq_ok_iff.mp found
  have isDirectory : host.tree.get? own = some .directory := isThere
  obtain ⟨-, arrives⟩ := leads
  have shortPath : Text.Utf8.size (path ++ '/' :: name) ≤ FileTree.pathLimit := by
    unfold FileTree.walk at arrives
    split at arrives
    next => cases arrives
    next =>
      split at arrives
      next => cases arrives
      next shortPath => exact Nat.not_lt.mp shortPath
  rw [← FileTree.walk_child isDirectory plain isEnd toDirectory shortPath, arrives]

/-- Nothing stands in a directory that has been made where nothing was. -/
theorem get?_placed_directory {host : Host} (sound : host.tree.Sound) {place : Path}
    (isFree : FileTree.IsFree host.tree place) (name : Text) :
    (placed place .directory host).tree.get? (place ++ [name]) = none := by
  refine (FileTree.get?_place_of_ne (by simp) .directory).trans (sound.get?_below ?_ name)
  rw [isFree.free]
  exact nofun

/-- A directory that has just been made holds no file. -/
theorem absent_in_makeDirectory {path name : Text} {host made : Host} (sound : host.tree.Sound)
    (tidy : Spelling.withoutEndSlashes path = path)
    (ran : (makeDirectory path).run host = (.ok (), made)) (plain : Spelling.IsPlain name) :
    ∀ old, made.content (path ++ '/' :: name) ≠ .ok old := by
  intro old present
  obtain ⟨spot, found⟩ := content_eq_ok_iff.mp present
  obtain ⟨arrives, -⟩ := find_eq_ok_iff.mp found
  obtain ⟨own, _, leads, rfl, isMade⟩ := find_of_makeDirectory tidy ran
  have empty := get?_placed_directory sound leads.free name
  have ends := arrives.child isMade plain (FileTree.isEnd_of_free empty)
  exact FileTree.child_ne_taken empty spot ends

/-- What a file held before additions it still holds. -/
theorem Adds.content {host larger : Host} (adds : Adds larger host) {path : Text}
    {content : Content} (present : host.content path = .ok content) :
    larger.content path = .ok content := by
  obtain ⟨spot, found⟩ := content_eq_ok_iff.mp present
  exact content_eq_ok_iff.mpr ⟨spot, adds.find found⟩

end CueWatch.Host
