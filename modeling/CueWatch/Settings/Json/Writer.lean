import CueWatch.Settings.Json.Reader

/-!
Contract: settings values written as JSON text.

Owns:
- `write`: one field or item a line, two blanks further in for each level, empty arrays and
  objects closed at once, and nothing but printable ASCII characters.

Does not own: the file the text goes to.
-/

namespace CueWatch.Settings.Json

/-- A number of at most four hexadecimal digits as an escape. -/
def unitEscape (n : Nat) : Text := Text.backslash :: 'u' :: Text.hex 4 n

/-- A character as an escape by number; beyond four digits as a pair. -/
def numberEscape (c : Char) : Text :=
  let n := c.toNat
  if n < 0x10000 then unitEscape n
  else
    unitEscape (0xD800 + (n - 0x10000) / 0x400) ++ unitEscape (0xDC00 + (n - 0x10000) % 0x400)

/-- The letter of a short escape that is always used. -/
def shortLetter? (c : Char) : Option Char :=
  if c = Text.doubleQuote || c = Text.backslash then some c
  else if c = Char.ofNat 8 then some 'b'
  else if c = Char.ofNat 12 then some 'f'
  else if c = '\n' then some 'n'
  else if c = '\r' then some 'r'
  else if c = '\t' then some 't'
  else none

def writeChar (c : Char) : Text :=
  match shortLetter? c with
  | some letter => [Text.backslash, letter]
  | none => if 0x20 ≤ c.toNat && c.toNat ≤ 0x7E then [c] else numberEscape c

def writeGlyph : Glyph → Text
  | .char c => writeChar c
  | .half place => unitEscape (Glyph.halfUnit place)

def writeString (string : Key) : Text :=
  Text.doubleQuote :: string.glyphs.flatMap writeGlyph ++ [Text.doubleQuote]

/-- The start of a line at a level. -/
def lineStart (level : Nat) : Text := '\n' :: List.replicate (2 * level) ' '

mutual

/-- A value whose first line stands at a level. -/
def writeAt (level : Nat) : Value → Text
  | .null => "null"
  | .bool true => "true"
  | .bool false => "false"
  | .int n => Text.signedDecimal n
  | .float x => x.text
  | .text t => writeString (.text t)
  | .torn t => writeString (.torn t)
  | .array [] => "[]"
  | .array (item :: items) =>
      '[' :: lineStart (level + 1) ++ writeItems (level + 1) (item :: items) ++
        lineStart level ++ [']']
  | .object [] => [openBrace, closeBrace]
  | .object (field :: fields) =>
      openBrace :: lineStart (level + 1) ++ writeFields (level + 1) (field :: fields) ++
        lineStart level ++ [closeBrace]

/-- The items of an array, each on a line of its own at a level. -/
def writeItems (level : Nat) : List Value → Text
  | [] => []
  | [item] => writeAt level item
  | item :: next :: items =>
      writeAt level item ++ ',' :: lineStart level ++ writeItems level (next :: items)

/-- The fields of an object, each on a line of its own at a level. -/
def writeFields (level : Nat) : List (Key × Value) → Text
  | [] => []
  | [(key, value)] => writeString key ++ ": " ++ writeAt level value
  | (key, value) :: next :: fields =>
      writeString key ++ ": " ++ writeAt level value ++ ',' :: lineStart level ++
        writeFields level (next :: fields)

end

/-- A value as the text of a file. -/
def write (value : Value) : Text := writeAt 0 value

end CueWatch.Settings.Json
