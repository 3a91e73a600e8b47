import CueWatch.Proofs.Keyed
import CueWatch.Proofs.Settings.Json.Acceptance
import CueWatch.Proofs.Settings.Json.Scalar

/-!
Contract: JSON text is read as the value that it was written for, fields in their order.

Owns:
- `FloatFree`, the values without binary64 numbers, and `Bounded`, the values that keep to the
  limits of the reader and hold no key twice;
- `read_write`, that a value which is both is read back from its text.

Does not own: how binary64 numbers are written and read, and that what was read is `Bounded`
(`Proofs.Settings.Json.Limits`).
-/

namespace CueWatch.Settings.Json

/-! ### Values -/

/-- A value in which no binary64 number occurs. -/
inductive FloatFree : Value → Prop
  | null : FloatFree .null
  | bool (b : Bool) : FloatFree (.bool b)
  | int (n : Int) : FloatFree (.int n)
  | text (t : Text) : FloatFree (.text t)
  | torn (t : Torn) : FloatFree (.torn t)
  | array {items : List Value} (each : ∀ item ∈ items, FloatFree item) : FloatFree (.array items)
  | object {fields : List (Key × Value)} (each : ∀ field ∈ fields, FloatFree field.2) :
      FloatFree (.object fields)

/-- A value in which at most `nesting` arrays and objects are inside each other, whole numbers have
no more digits than are read, and no object holds a key twice. -/
inductive Bounded : Nat → Value → Prop
  | null {nesting : Nat} : Bounded nesting .null
  | bool {nesting : Nat} (b : Bool) : Bounded nesting (.bool b)
  | int {nesting : Nat} {n : Int} (short : IsReadable n) : Bounded nesting (.int n)
  | float {nesting : Nat} (x : Binary64) : Bounded nesting (.float x)
  | text {nesting : Nat} (t : Text) : Bounded nesting (.text t)
  | torn {nesting : Nat} (t : Torn) : Bounded nesting (.torn t)
  | array {inner : Nat} {items : List Value} (each : ∀ item ∈ items, Bounded inner item) :
      Bounded (inner + 1) (.array items)
  | object {inner : Nat} {fields : List (Key × Value)} (distinct : (Keyed.keys fields).Nodup)
      (each : ∀ field ∈ fields, Bounded inner field.2) :
      Bounded (inner + 1) (.object fields)

/-! ### What is written -/

theorem isBlank_nil : IsBlank [] := by decide

theorem isBlank_lineStart (level : Nat) : IsBlank (lineStart level) := by
  intro c member
  rw [lineStart, List.mem_cons] at member
  rcases member with rfl | blank
  · decide
  · rw [List.eq_of_mem_replicate blank]
    decide

theorem spellsItems_writeItems {nesting level : Nat} {items : List Value} (nonempty : items ≠ [])
    (each : ∀ item ∈ items, Spells nesting (writeAt level item) item) {gap : Text}
    (blank : IsBlank gap) : SpellsItems nesting (writeItems level items ++ gap) items := by
  induction items with
  | nil => exact absurd rfl nonempty
  | cons item items inductionHypothesis =>
      have first := each item List.mem_cons_self
      cases items with
      | nil =>
          rw [writeItems]
          exact .last first blank
      | cons next items =>
          have others := inductionHypothesis (List.cons_ne_nil next items)
            fun i member => each i (List.mem_cons_of_mem _ member)
          rw [writeItems, List.append_assoc, List.append_assoc, List.cons_append]
          exact .more first isBlank_nil (isBlank_lineStart level) others

theorem spellsField_write {nesting level : Nat} {field : Key × Value}
    (spelled : Spells nesting (writeAt level field.2) field.2) :
    SpellsField nesting (writeString field.1 ++ (": " : Text) ++ writeAt level field.2) field := by
  have blank : IsBlank [' '] := by decide
  rw [List.append_assoc]
  exact .pair (spellsString_writeString field.1) isBlank_nil blank spelled

theorem spellsFields_writeFields {nesting level : Nat} {fields : List (Key × Value)}
    (nonempty : fields ≠ [])
    (each : ∀ field ∈ fields, Spells nesting (writeAt level field.2) field.2) {gap : Text}
    (blank : IsBlank gap) : SpellsFields nesting (writeFields level fields ++ gap) fields := by
  induction fields with
  | nil => exact absurd rfl nonempty
  | cons field fields inductionHypothesis =>
      have first := spellsField_write (each field List.mem_cons_self)
      cases fields with
      | nil =>
          rw [writeFields]
          exact .last first blank
      | cons next fields =>
          have others := inductionHypothesis (List.cons_ne_nil next fields)
            fun f member => each f (List.mem_cons_of_mem _ member)
          rw [writeFields, List.append_assoc, List.append_assoc, List.cons_append]
          exact .more first isBlank_nil (isBlank_lineStart level) others

/-- A value without binary64 numbers that keeps to the limits is spelled by its text. -/
theorem spells_writeAt {nesting : Nat} {value : Value} (bounded : Bounded nesting value)
    (noFloat : FloatFree value) (level : Nat) : Spells nesting (writeAt level value) value := by
  -- The induction is on the limits and not on the value: they go down with the nesting.
  induction bounded generalizing level with
  | null => exact .word (List.mem_cons_self : (("null" : Text), Value.null) ∈ words)
  | bool b =>
      have isWord : ((if b then "true" else "false" : Text), Value.bool b) ∈ words := by
        cases b <;> simp [words]
      cases b <;> exact .word isWord
  | int short => exact .number (spellsNumeral_signedDecimal _) (numeralValue_wholeNumeral short)
  | float x => cases noFloat
  | text t => exact .string (spellsString_writeString (.text t))
  | torn t => exact .string (spellsString_writeString (.torn t))
  | @array inner items _ inductionHypothesis =>
      obtain ⟨⟩ | ⟨⟩ | ⟨⟩ | ⟨⟩ | ⟨⟩ | free := noFloat
      cases items with
      | nil => exact .noItems isBlank_nil
      | cons item items =>
          have spelled := spellsItems_writeItems (List.cons_ne_nil item items)
            (fun i member => inductionHypothesis i member (free i member) (level + 1))
            (isBlank_lineStart level)
          have whole := Spells.array (isBlank_lineStart (level + 1)) spelled
          simpa only [writeAt, List.append_assoc, List.cons_append] using whole
  | @object inner fields distinct _ inductionHypothesis =>
      obtain ⟨⟩ | ⟨⟩ | ⟨⟩ | ⟨⟩ | ⟨⟩ | ⟨⟩ | free := noFloat
      have spelled : SpellsObject inner (writeAt level (.object fields)) fields := by
        cases fields with
        | nil => exact .noFields isBlank_nil
        | cons field fields =>
            have inside := spellsFields_writeFields (List.cons_ne_nil field fields)
              (fun f member => inductionHypothesis f member (free f member) (level + 1))
              (isBlank_lineStart level)
            have whole := SpellsObject.fields (isBlank_lineStart (level + 1)) inside
            simpa only [writeAt, List.append_assoc, List.cons_append] using whole
      -- The reader puts fields over each other, which changes nothing when keys are distinct.
      have object := Spells.object spelled
      rwa [Keyed.merge_nil distinct] at object

/-- A value without binary64 numbers that keeps to the limits is read back from its text. -/
theorem read_write {value : Value} (bounded : Bounded nestingLimit value)
    (noFloat : FloatFree value) : read (write value) = .ok value := by
  refine read_of_isValueText ⟨[], write value, [], ?_, isBlank_nil, isBlank_nil, ?_⟩
  · rw [List.append_nil, List.nil_append]
  · exact spells_writeAt bounded noFloat 0

end CueWatch.Settings.Json
