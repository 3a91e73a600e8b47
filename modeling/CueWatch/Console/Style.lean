import CueWatch.Console.Colour
import CueWatch.Keyed
import CueWatch.Text.Blank
import CueWatch.Text.LowerCase

/-!
Contract: the styles of the console, as words.

A style is told by the names of traits, `not` before one that is to be absent, the name of a
colour, `on` before that of the background, and `link` before an address.

Owns:
- `Style` and `Style.read`, which reads the words;
- `Style.text`, the same style in a fixed order of words;
- `Style.normal`, the form in which the names of styles are compared.

Does not own: tags (`Console.Markup`).
-/

namespace CueWatch.Console

/-- A style: traits that are present or absent, the colours and an address. -/
structure Style where
  traits : Keyed Text Bool
  colour : Option Text
  background : Option Text
  address : Option Text
deriving DecidableEq, Repr

namespace Style

def plain : Style := ⟨[], none, none, none⟩

def traitNames : List Text :=
  [ "bold", "dim", "italic", "underline", "blink", "blink2", "reverse", "conceal", "strike",
    "underline2", "frame", "encircle", "overline" ]

def shortNames : List (Text × Text) :=
  [ ("b", "bold"), ("d", "dim"), ("i", "italic"), ("u", "underline"), ("r", "reverse"),
    ("c", "conceal"), ("s", "strike"), ("uu", "underline2"), ("o", "overline") ]

def trait? (word : Text) : Option Text :=
  if traitNames.contains word then some word else Keyed.find? word shortNames

def mark (style : Style) (trait : Text) (isPresent : Bool) : Style :=
  { style with traits := Keyed.put trait isPresent style.traits }

/-- Reads words after those that have told a style so far; some words tell none. The words `on`,
`not` and `link` are about the word after them. -/
def readFrom (style : Style) : List Text → Except Failure (Option Style)
  | [] => .ok (some style)
  | [given] => do
      let word := Text.lower given
      match trait? word with
      | some trait => .ok (some (style.mark trait true))
      | none =>
          if ← Colour.isColour word then .ok (some { style with colour := some word })
          else .ok none
  | given :: next :: rest => do
      let word := Text.lower given
      if word = "on" then
        let background := Text.lower next
        if ← Colour.isColour background then
          readFrom { style with background := some background } rest
        else .ok none
      else if word = "not" then
        match trait? next with
        | some trait => readFrom (style.mark trait false) rest
        | none => .ok none
      else if word = "link" then readFrom { style with address := some next } rest
      else
        match trait? word with
        | some trait => readFrom (style.mark trait true) (next :: rest)
        | none =>
            if ← Colour.isColour word then
              readFrom { style with colour := some word } (next :: rest)
            else .ok none

def read (t : Text) : Except Failure (Option Style) :=
  if Text.trim t = "none" then .ok (some plain) else readFrom plain (Text.words t)

def traitWords (style : Style) (trait : Text) : List Text :=
  match Keyed.find? trait style.traits with
  | some true => [trait]
  | some false => ["not", trait]
  | none => []

/-- A style as words in a fixed order. -/
def text (style : Style) : Text :=
  let words := traitNames.flatMap style.traitWords ++ style.colour.toList ++
    (match style.background with
     | some colour => ["on", colour]
     | none => []) ++
    (match style.address with
     | some address => ["link", address]
     | none => [])
  if words.isEmpty then "none" else Text.join " " words

/-- The form in which the names of styles are compared: that of the style they tell, or the name
itself, where neither the blanks around it nor capitals matter. -/
def normal (name : Text) : Except Failure Text :=
  match read name with
  | .error failure => .error failure
  | .ok (some style) => .ok style.text
  | .ok none => .ok (Text.lower (Text.trim name))

end Style

end CueWatch.Console
