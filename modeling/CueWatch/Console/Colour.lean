import CueWatch.Failure
import CueWatch.Text.Digit

/-!
Contract: the colours that a style of the console may name.

Owns:
- the names of colours, with and without the number of a shade;
- `isColour`, which also takes hexadecimal codes, numbers of a palette and amounts of red, green
  and blue.

Does not own: what the colours look like.
-/

namespace CueWatch.Console.Colour

/-- The names that stand alone. -/
def names : List Text := List.map String.toList
  [ "black", "red", "green", "yellow", "blue", "magenta", "cyan", "white", "bright_black",
    "bright_red", "bright_green", "bright_yellow", "bright_blue", "bright_magenta", "bright_cyan",
    "bright_white", "navy_blue", "dark_blue", "dark_green", "dark_cyan", "light_sea_green",
    "dark_turquoise", "medium_spring_green", "dark_red", "purple", "blue_violet", "medium_purple",
    "dark_sea_green", "steel_blue", "cornflower_blue", "cadet_blue", "medium_turquoise",
    "dark_magenta", "dark_violet", "light_slate_grey", "light_slate_gray", "light_slate_blue",
    "light_green", "medium_violet_red", "dark_orange", "indian_red", "hot_pink", "medium_orchid",
    "dark_goldenrod", "rosy_brown", "dark_khaki", "light_steel_blue", "green_yellow", "orchid",
    "violet", "tan", "light_coral", "sandy_brown" ]

/-- The shades of grey, as parts of a hundred. -/
def greys : List Nat :=
  [ 0, 3, 7, 11, 15, 19, 23, 27, 30, 35, 37, 39, 42, 46, 50, 53, 54, 58, 62, 63, 66, 69, 70, 74,
    78, 82, 84, 85, 89, 93, 100 ]

/-- The names that take the number of a shade. -/
def shadedNames : List (Text × List Nat) := List.map (fun pair => (String.toList pair.1, pair.2))
  [ ("red", [1, 3]), ("green", [1, 3, 4]), ("yellow", [1, 2, 3, 4]), ("blue", [1, 3]),
    ("magenta", [1, 2, 3]), ("cyan", [1, 2, 3]),
    ("grey", greys),
    ("gray", greys),
    ("deep_sky_blue", [1, 2, 3, 4]), ("dodger_blue", [1, 2, 3]), ("spring_green", [1, 2, 3, 4]),
    ("turquoise", [2, 4]), ("deep_pink", [1, 2, 3, 4]), ("purple", [3, 4]), ("orange", [1, 3, 4]),
    ("medium_purple", [1, 2, 3, 4]), ("slate_blue", [1, 3]), ("royal_blue", [1]),
    ("chartreuse", [1, 2, 3, 4]), ("dark_sea_green", [1, 2, 3, 4]), ("pale_turquoise", [1, 4]),
    ("steel_blue", [1, 3]), ("sky_blue", [1, 2, 3]), ("pale_green", [1, 3]),
    ("sea_green", [1, 2, 3]), ("aquamarine", [1, 3]), ("dark_slate_gray", [1, 2, 3]),
    ("light_pink", [1, 3, 4]), ("plum", [1, 2, 3, 4]), ("wheat", [1, 4]),
    ("dark_olive_green", [1, 2, 3]), ("light_sky_blue", [1, 3]), ("dark_orange", [3]),
    ("indian_red", [1]), ("hot_pink", [2, 3]), ("medium_orchid", [1, 3]),
    ("light_salmon", [1, 3]), ("gold", [1, 3]), ("navajo_white", [1, 3]),
    ("light_steel_blue", [1, 3]), ("light_cyan", [1, 3]), ("orchid", [1, 2]), ("pink", [1, 3]),
    ("light_goldenrod", [1, 2, 3]), ("misty_rose", [1, 3]), ("thistle", [1, 3]),
    ("khaki", [1, 3]), ("light_yellow", [3]), ("honeydew", [2]), ("orange_red", [1]),
    ("salmon", [1]), ("pale_violet_red", [1]), ("cornsilk", [1]) ]

/-- The greatest amount of a colour, and the greatest number in the palette. -/
def limit : Nat := 255

def isName (word : Text) : Bool :=
  word = "default" || names.contains word ||
    shadedNames.any fun shades => shades.2.any fun shade => word = shades.1 ++ Text.decimal shade

def isHexDigit (c : Char) : Bool := ('0' ≤ c && c ≤ '9') || ('a' ≤ c && c ≤ 'f')

/-- Whether a text is the hexadecimal code of a colour: a hash and six digits. -/
def isCode : Text → Bool
  | '#' :: digits => digits.length = 6 && digits.all isHexDigit
  | _ => false

/-- What stands in the parentheses after a word that ends the text. -/
def argument? (word : Text) (t : Text) : Option Text :=
  let opening := word ++ ['(']
  if opening.isPrefixOf t && t.getLast? = some ')' then some (t.drop opening.length).dropLast
  else none

/-- Whether a text is a number of the palette, in one to three digits. -/
def isPaletteNumber (t : Text) : Bool :=
  match argument? "color" t with
  | some digits =>
      !digits.isEmpty && digits.length ≤ 3 && digits.all (fun c => '0' ≤ c && c ≤ '9') &&
        Text.numeralValue digits ≤ limit
  | none => false

/-- The value of an amount. One that is not written is a failure, and so is one with too many
digits. -/
def amount (digits : Text) : Except Failure Nat :=
  if digits.isEmpty then .error .emptyNumeral
  else if Failure.digitLimit < digits.length then .error (.tooManyDigits digits.length)
  else .ok (Text.numeralValue digits)

/-- Whether a text tells amounts of red, green and blue. Of three, each has to have a value. -/
def isMixture (t : Text) : Except Failure Bool :=
  match argument? "rgb" t with
  | none => .ok false
  | some inside =>
      if inside.isEmpty || !inside.all (fun c => Text.isDigit c || c = ',') then .ok false
      else
        let amounts := Text.splitOn ',' inside
        if amounts.length ≠ 3 then .ok false
        else (amounts.mapM amount).map fun values => values.all (· ≤ limit)

/-- Whether a text in small letters tells a colour. -/
def isColour (word : Text) : Except Failure Bool :=
  if isName word || isCode word || isPaletteNumber word then .ok true else isMixture word

end CueWatch.Console.Colour
