import CueWatch.Failure
import CueWatch.Panel.Markup.Colour
import CueWatch.Text.WordChar

/-!
Contract: the tags of the status bar, as they are written.

Owns:
- `Item` and its reading: the things that tags are made of;
- `Mark` and `Mark.ofChar?`, the marks of the value of a key;
- `Tag.read`, which reads a tag up to its closing bracket or to the end.

Does not own: what a tag tells (`Panel.Markup.Form`).
-/

namespace CueWatch.Panel.Markup

/-- A thing that tags are made of. A key has an equals sign, and a value follows it. -/
inductive Item where
  | key (name : Text)
  | percent (parts : Option Binary64)
  | colour (colour : Option Colour)
  | word (name : Text)
  | variable (name : Text)
  | blank
deriving DecidableEq, Repr

namespace Item

/-- Whether a character begins a word: an ASCII letter or an underscore. -/
def startsWord (c : Char) : Bool := ('a' ≤ c && c ≤ 'z') || ('A' ≤ c && c ≤ 'Z') || c = '_'

/-- Whether a character continues a word, the name of a key or that of a variable. -/
def continuesWord (c : Char) : Bool := startsWord c || ('0' ≤ c && c ≤ '9') || c = '-'

/-- Reads a key with its equals sign. -/
def readKey? : Text → Option (Item × Text)
  | [] => none
  | c :: rest =>
      let more := rest.takeWhile continuesWord
      match rest.drop more.length with
      | '=' :: after =>
          if c = '@' || c = '-' || startsWord c then some (.key (c :: more), after) else none
      | _ => none

/-- A whole number of parts of a hundred as a part of one, unless it is too great or has too many
digits. -/
def partsOf (isNegative : Bool) (digits : Text) : Option Binary64 :=
  if Failure.digitLimit < digits.length then none
  else
    match Binary64.ofDecimal isNegative (Text.numeralValue digits) 0 with
    | .finite negative mantissa exponent =>
        let isZero := mantissa == 0
        some ((Binary64.finite (negative && !isZero) mantissa exponent).div (.ofInt 100))
    | _ => none

/-- Reads a number of parts of a hundred, which has to be a whole one to tell something. -/
def readPercent? (t : Text) : Option (Item × Text) :=
  match Colour.readNumber? t with
  | some (_, '%' :: rest) =>
      let written := t.takeWhile (· ≠ '%')
      let digits := written.dropWhile (· == '-')
      let parts := if digits.contains '.' then none else partsOf (written ≠ digits) digits
      some (.percent parts, rest)
  | _ => none

def readColour? (t : Text) : Option (Item × Text) :=
  (Colour.read? t).map fun found => (.colour found.1, found.2)

def readWord? : Text → Option (Item × Text)
  | [] => none
  | c :: rest =>
      let more := rest.takeWhile continuesWord
      if startsWord c then some (.word (c :: more), rest.drop more.length) else none

/-- Reads a variable: a dollar sign and a name. -/
def readVariable? : Text → Option (Item × Text)
  | '$' :: rest =>
      match rest.takeWhile continuesWord with
      | [] => none
      | name => some (.variable name, rest.drop name.length)
  | _ => none

def readBlank? : Text → Option (Item × Text)
  | [] => none
  | c :: rest => if Text.isBlank c then some (.blank, rest) else none

/-- Reads an item: the first in this order that stands there. -/
def read? (t : Text) : Option (Item × Text) :=
  readKey? t <|> readPercent? t <|> readColour? t <|> readWord? t <|> readVariable? t <|>
    readBlank? t

end Item

/-- A character of the value of a key: one that opens a level, one that closes a level, a quote, or
another one. -/
inductive Mark where
  | opens
  | closes
  | quote
  | other
deriving DecidableEq, Repr

/-- The role of a character in the value of a key; other characters cannot stand there. -/
def Mark.ofChar? (c : Char) : Option Mark :=
  if c = '(' || c = '[' || c = Char.ofNat 0x7B then some .opens
  else if c = ')' || c = Char.ofNat 0x7D then some .closes
  else if c = Text.singleQuote || c = Text.doubleQuote then some .quote
  else if Text.isWordChar c || Text.isBlank c || c = '.' || c = ',' then some .other
  else none

/-- The text after a quoted text, whose opening quote has been read. It ends on its line. -/
def afterQuote? (quote : Char) : Text → Option Text
  | [] => none
  | c :: rest =>
      if c = quote then some rest
      else if Text.isLineBreak c then none
      else afterQuote? quote rest

/-- Where the reader of a tag is: among items, in the value of a key, or in text, to which a value
leads that closes more levels than it opens. -/
inductive Place where
  | items
  | value
  | text
deriving DecidableEq, Repr

/-- What has been read of a tag: whether there was something that tags are not made of, whether a
bracket closed it, the levels left open by values, and the text after it. -/
structure Reading where
  hasText : Bool
  isClosed : Bool
  levels : Nat
  rest : Text
deriving DecidableEq, Repr

/-- The same reading with text in the tag. -/
def Reading.withText (reading : Reading) : Reading := { reading with hasText := true }

/-- Reads a tag from a place on. The count bounds the steps; the length of the text is enough. -/
def Reading.from : Nat → Place → Nat → Text → Except Failure Reading
  | 0, _, levels, _ => .ok ⟨false, false, levels, []⟩
  | _ + 1, _, levels, [] => .ok ⟨false, false, levels, []⟩
  | steps + 1, .items, levels, c :: rest =>
      if c = ']' then .ok ⟨false, true, levels, rest⟩
      else
        match Item.read? (c :: rest) with
        | some (.key _, after) => Reading.from steps .value levels after
        | some (_, after) => Reading.from steps .items levels after
        | none =>
            let after := if c = Text.backslash && rest.head? = some ']' then rest.drop 1 else rest
            (Reading.from steps .items levels after).map Reading.withText
  | steps + 1, .value, levels, c :: rest =>
      if c = ']' then .ok ⟨false, true, levels, rest⟩
      else
        match Mark.ofChar? c with
        | some .opens => Reading.from steps .value (levels + 1) rest
        | some .closes =>
            if levels = 0 then Reading.from steps .text 0 rest
            else Reading.from steps .value (levels - 1) rest
        | some .quote =>
            match afterQuote? c rest with
            | some after => Reading.from steps .value levels after
            | none => .error (.badMarkup "a quoted text has no end")
        | some .other => Reading.from steps .value levels rest
        | none =>
            .error (.badMarkup ("expected a value (found " ++ Text.quoted (c :: rest) ++ ")."))
  | steps + 1, .text, levels, c :: rest =>
      if c = '[' then
        Reading.from steps .items levels (if rest.head? = some '/' then rest.drop 1 else rest)
      else
        let after := if c = Text.backslash && rest.head? = some '[' then rest.drop 1 else rest
        (Reading.from steps .text levels after).map Reading.withText

/-- A tag: the text between its brackets, whether there is something in it that tags are not made
of, and whether there is a closing bracket. -/
structure Tag where
  written : Text
  hasText : Bool
  isClosed : Bool
deriving DecidableEq, Repr

/-- Reads a tag after its opening bracket, given the levels left open by values before it. -/
def Tag.read (levels : Nat) (t : Text) : Except Failure (Tag × Nat × Text) :=
  (Reading.from t.length .items levels t).map fun reading =>
    let written := t.take (t.length - reading.rest.length - if reading.isClosed then 1 else 0)
    (⟨written, reading.hasText, reading.isClosed⟩, reading.levels, reading.rest)

end CueWatch.Panel.Markup
