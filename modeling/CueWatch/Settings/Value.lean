import CueWatch.Number.Binary64
import CueWatch.Settings.Key

/-!
Contract: the values that settings hold.

Owns:
- `Value`: null, truth values, whole and binary64 numbers, texts and torn strings, arrays and objects
  whose keys keep their order;
- whether a value counts as set, the name of its kind, the items that it is made of, and how it is
  shown in a message;
- whether two values are the same.

Does not own: the file format of settings (`Settings.Json`).
-/

namespace CueWatch.Settings

inductive Value where
  | null
  | bool (b : Bool)
  | int (n : Int)
  | float (x : Binary64)
  | text (t : Text)
  | torn (t : Torn)
  | array (items : List Value)
  | object (fields : List (Key × Value))
deriving Repr

namespace Value

/-- A string as a value. -/
def ofKey : Key → Value
  | .text t => .text t
  | .torn t => .torn t

/-- A glyph as a value of its own. -/
def ofGlyph : Glyph → Value
  | .char c => .text [c]
  | .half place => .torn (.ofHalf place)

/-- Whether a value counts as set: empty, zero and false values do not. -/
def isSet : Value → Bool
  | .null => false
  | .bool b => b
  | .int n => n != 0
  | .float x => !x.isZero
  | .text t => !t.isEmpty
  | .torn _ => true
  | .array items => !items.isEmpty
  | .object fields => !fields.isEmpty

/-- The name of a value's kind in messages. -/
def kind : Value → Text
  | .null => "NoneType"
  | .bool _ => "bool"
  | .int _ => "int"
  | .float _ => "float"
  | .text _ => "str"
  | .torn _ => "str"
  | .array _ => "list"
  | .object _ => "dict"

/-- The items of a value: those of an array, the keys of an object, the characters of a text and the
glyphs of a torn string. -/
def items? : Value → Option (List Value)
  | .array items => some items
  | .object fields => some (fields.map fun field => ofKey field.1)
  | .text t => some (t.map fun c => .text [c])
  | .torn t => some (t.glyphs.map ofGlyph)
  | _ => none

/-- The items of a value that has to have some. -/
def items (value : Value) : Except Failure (List Value) :=
  match value.items? with
  | some items => .ok items
  | none => .error (.wrongType (Text.quoted value.kind ++ " object is not iterable"))

/-- The items of a value that is put among other items. -/
def spread (value : Value) : Except Failure (List Value) :=
  match value.items? with
  | some items => .ok items
  | none => .error (.wrongType ("Value after * must be an iterable, not " ++ value.kind))

/-- A binary64 number in a message; what is no number has names of its own there. -/
def shownFloat : Binary64 → Text
  | .nan => "nan"
  | .infinite false => "inf"
  | .infinite true => "-inf"
  | x => x.text

mutual

/-- A value inside a message, texts in quotes. -/
def quoted : Value → Text
  | .null => "None"
  | .bool true => "True"
  | .bool false => "False"
  | .int n => Text.signedDecimal n
  | .float x => shownFloat x
  | .text t => Text.quoted t
  | .torn t => t.quoted
  | .array items => '[' :: quotedItems items ++ [']']
  | .object fields => Char.ofNat 0x7B :: quotedFields fields ++ [Char.ofNat 0x7D]

def quotedItems : List Value → Text
  | [] => []
  | [item] => item.quoted
  | item :: next :: items => item.quoted ++ ", " ++ quotedItems (next :: items)

def quotedFields : List (Key × Value) → Text
  | [] => []
  | [(key, value)] => key.quoted ++ ": " ++ value.quoted
  | (key, value) :: next :: fields =>
      key.quoted ++ ": " ++ value.quoted ++ ", " ++ quotedFields (next :: fields)

end

/-- A value in a message; a text stands for itself. -/
def shown : Value → Text
  | .text t => t
  | .torn t => t.shown
  | value => value.quoted

/-! ### Equality -/

mutual

/-- Whether two values are the same. -/
def same : Value → Value → Bool
  | .null, .null => true
  | .bool b, .bool c => b == c
  | .int m, .int n => m == n
  | .float x, .float y => x == y
  | .text t, .text u => t == u
  | .torn t, .torn u => t == u
  | .array items, .array others => sameItems items others
  | .object fields, .object others => sameFields fields others
  | _, _ => false

def sameItems : List Value → List Value → Bool
  | [], [] => true
  | item :: items, other :: others => same item other && sameItems items others
  | _, _ => false

def sameFields : List (Key × Value) → List (Key × Value) → Bool
  | [], [] => true
  | (key, value) :: fields, (other, otherValue) :: others =>
      key == other && same value otherValue && sameFields fields others
  | _, _ => false

end

mutual

theorem same_iff : ∀ value other : Value, same value other = true ↔ value = other
  | .null, other => by cases other <;> simp [same]
  | .bool _, other => by cases other <;> simp [same]
  | .int _, other => by cases other <;> simp [same]
  | .float _, other => by cases other <;> simp [same]
  | .text _, other => by cases other <;> simp [same]
  | .torn _, other => by cases other <;> simp [same]
  | .array items, other => by cases other <;> simp [same, sameItems_iff items]
  | .object fields, other => by cases other <;> simp [same, sameFields_iff fields]

theorem sameItems_iff : ∀ items others : List Value, sameItems items others = true ↔ items = others
  | [], others => by cases others <;> simp [sameItems]
  | item :: items, others => by
      cases others <;> simp [sameItems, same_iff item, sameItems_iff items]

theorem sameFields_iff : ∀ fields others : List (Key × Value),
    sameFields fields others = true ↔ fields = others
  | [], others => by cases others <;> simp [sameFields]
  | (key, value) :: fields, others => by
      rcases others with _ | ⟨⟨other, otherValue⟩, others⟩
      · simp [sameFields]
      · simp [sameFields, same_iff value, sameFields_iff fields]

end

instance : DecidableEq Value := fun value other => decidable_of_iff _ (same_iff value other)

end Value

end CueWatch.Settings
