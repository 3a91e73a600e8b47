import CueWatch.Keyed
import CueWatch.Number.Arithmetic
import CueWatch.Text.Blank
import CueWatch.Text.Lines

/-!
Contract: the colours that a tag of the status bar may tell.

Owns:
- `Colour`, what a colour is, and `Colour.faded` and `Colour.text`;
- `Colour.ofName?` and `Colour.read?`, which read names and codes.

Does not own: what a tag does with them (`Panel.Markup.Form`).
-/

namespace CueWatch.Panel.Markup

/-- A colour: amounts of red, green and blue up to 255 with an opacity, no colour at all, one that
the terminal chooses for a name, or one that goes with what is behind it. -/
inductive Colour where
  | mixed (red green blue : Nat) (opacity : Binary64)
  | clear
  | terminal (name : Text)
  | automatic (opacity : Binary64)
deriving DecidableEq, Repr

namespace Colour

def full : Binary64 := .ofInt 1

/-- A mixed colour of full opacity. -/
def opaqueOf (red green blue : Nat) : Colour := .mixed red green blue full

/-- The colour with its opacity multiplied. That of the terminal's colours is fixed. -/
def faded (factor : Binary64) : Colour → Colour
  | .mixed red green blue opacity => .mixed red green blue (opacity.mul factor)
  | .clear => .mixed 0 0 0 ((Binary64.zero false).mul factor)
  | .terminal name => .terminal name
  | .automatic opacity => .automatic (opacity.mul factor)

/-- An opacity between none and all. -/
def boundedOpacity (opacity : Binary64) : Binary64 :=
  Binary64.clamp (Binary64.zero false) full opacity

def amountsText (red green blue : Nat) : Text :=
  Text.join [','] ([red, green, blue].map Text.decimal)

/-- How a colour is told. An opacity is told unless it is full. -/
def text : Colour → Text
  | .mixed red green blue opacity =>
      if opacity = full then "rgb(" ++ amountsText red green blue ++ [')']
      else "rgba(" ++ amountsText red green blue ++ [','] ++ opacity.text ++ [')']
  | .clear => "rgba(0,0,0,0)"
  | .terminal name => name
  | .automatic opacity =>
      "auto " ++ ((boundedOpacity opacity).mul (.ofInt 100)).text ++ ['%']

/-! ### Names -/

/-- The mixed colour of a code with two hexadecimal digits for each amount. -/
def ofCode (code : Nat) : Colour := opaqueOf (code / 0x10000 % 256) (code / 256 % 256) (code % 256)

set_option maxRecDepth 4000 in
def codes : List (Text × Nat) := List.map (fun pair => (String.toList pair.1, pair.2))
  [
    ("aliceblue", 0xF0F8FF), ("antiquewhite", 0xFAEBD7), ("aqua", 0x00FFFF),
    ("aquamarine", 0x7FFFD4), ("azure", 0xF0FFFF), ("beige", 0xF5F5DC), ("bisque", 0xFFE4C4),
    ("black", 0x000000), ("blanchedalmond", 0xFFEBCD), ("blue", 0x0000FF),
    ("blueviolet", 0x8A2BE2), ("brown", 0xA52A2A), ("burlywood", 0xDEB887),
    ("cadetblue", 0x5F9EA0), ("chartreuse", 0x7FFF00), ("chocolate", 0xD2691E),
    ("coral", 0xFF7F50), ("cornflowerblue", 0x6495ED), ("cornsilk", 0xFFF8DC),
    ("crimson", 0xDC143C), ("cyan", 0x00FFFF), ("darkblue", 0x00008B), ("darkcyan", 0x008B8B),
    ("darkgoldenrod", 0xB8860B), ("darkgray", 0xA9A9A9), ("darkgreen", 0x006400),
    ("darkgrey", 0xA9A9A9), ("darkkhaki", 0xBDB76B), ("darkmagenta", 0x8B008B),
    ("darkolivegreen", 0x556B2F), ("darkorange", 0xFF8C00), ("darkorchid", 0x9932CC),
    ("darkred", 0x8B0000), ("darksalmon", 0xE9967A), ("darkseagreen", 0x8FBC8F),
    ("darkslateblue", 0x483D8B), ("darkslategray", 0x2F4F4F), ("darkslategrey", 0x2F4F4F),
    ("darkturquoise", 0x00CED1), ("darkviolet", 0x9400D3), ("deeppink", 0xFF1493),
    ("deepskyblue", 0x00BFFF), ("dimgray", 0x696969), ("dimgrey", 0x696969),
    ("dodgerblue", 0x1E90FF), ("firebrick", 0xB22222), ("floralwhite", 0xFFFAF0),
    ("forestgreen", 0x228B22), ("fuchsia", 0xFF00FF), ("gainsboro", 0xDCDCDC),
    ("ghostwhite", 0xF8F8FF), ("gold", 0xFFD700), ("goldenrod", 0xDAA520), ("gray", 0x808080),
    ("green", 0x008000), ("greenyellow", 0xADFF2F), ("grey", 0x808080), ("honeydew", 0xF0FFF0),
    ("hotpink", 0xFF69B4), ("indianred", 0xCD5C5C), ("indigo", 0x4B0082), ("ivory", 0xFFFFF0),
    ("khaki", 0xF0E68C), ("lavender", 0xE6E6FA), ("lavenderblush", 0xFFF0F5),
    ("lawngreen", 0x7CFC00), ("lemonchiffon", 0xFFFACD), ("lightblue", 0xADD8E6),
    ("lightcoral", 0xF08080), ("lightcyan", 0xE0FFFF), ("lightgoldenrodyellow", 0xFAFAD2),
    ("lightgray", 0xD3D3D3), ("lightgreen", 0x90EE90), ("lightgrey", 0xD3D3D3),
    ("lightpink", 0xFFB6C1), ("lightsalmon", 0xFFA07A), ("lightseagreen", 0x20B2AA),
    ("lightskyblue", 0x87CEFA), ("lightslategray", 0x778899), ("lightslategrey", 0x778899),
    ("lightsteelblue", 0xB0C4DE), ("lightyellow", 0xFFFFE0), ("lime", 0x00FF00),
    ("limegreen", 0x32CD32), ("linen", 0xFAF0E6), ("magenta", 0xFF00FF), ("maroon", 0x800000),
    ("mediumaquamarine", 0x66CDAA), ("mediumblue", 0x0000CD), ("mediumorchid", 0xBA55D3),
    ("mediumpurple", 0x9370DB), ("mediumseagreen", 0x3CB371), ("mediumslateblue", 0x7B68EE),
    ("mediumspringgreen", 0x00FA9A), ("mediumturquoise", 0x48D1CC),
    ("mediumvioletred", 0xC71585), ("midnightblue", 0x191970), ("mintcream", 0xF5FFFA),
    ("mistyrose", 0xFFE4E1), ("moccasin", 0xFFE4B5), ("navajowhite", 0xFFDEAD),
    ("navy", 0x000080), ("oldlace", 0xFDF5E6), ("olive", 0x808000), ("olivedrab", 0x6B8E23),
    ("orange", 0xFFA500), ("orangered", 0xFF4500), ("orchid", 0xDA70D6),
    ("palegoldenrod", 0xEEE8AA), ("palegreen", 0x98FB98), ("paleturquoise", 0xAFEEEE),
    ("palevioletred", 0xDB7093), ("papayawhip", 0xFFEFD5), ("peachpuff", 0xFFDAB9),
    ("peru", 0xCD853F), ("pink", 0xFFC0CB), ("plum", 0xDDA0DD), ("powderblue", 0xB0E0E6),
    ("purple", 0x800080), ("rebeccapurple", 0x663399), ("red", 0xFF0000),
    ("rosybrown", 0xBC8F8F), ("royalblue", 0x4169E1), ("saddlebrown", 0x8B4513),
    ("salmon", 0xFA8072), ("sandybrown", 0xF4A460), ("seagreen", 0x2E8B57),
    ("seashell", 0xFFF5EE), ("sienna", 0xA0522D), ("silver", 0xC0C0C0), ("skyblue", 0x87CEEB),
    ("slateblue", 0x6A5ACD), ("slategray", 0x708090), ("slategrey", 0x708090),
    ("snow", 0xFFFAFA), ("springgreen", 0x00FF7F), ("steelblue", 0x4682B4), ("tan", 0xD2B48C),
    ("teal", 0x008080), ("thistle", 0xD8BFD8), ("tomato", 0xFF6347), ("turquoise", 0x40E0D0),
    ("violet", 0xEE82EE), ("wheat", 0xF5DEB3), ("white", 0xFFFFFF), ("whitesmoke", 0xF5F5F5),
    ("yellow", 0xFFFF00), ("yellowgreen", 0x9ACD32)
  ]

def terminalNames : List Text := List.map String.toList
  [ "black", "red", "green", "yellow", "blue", "magenta", "cyan", "white", "bright_black",
    "bright_red", "bright_green", "bright_yellow", "bright_blue", "bright_magenta", "bright_cyan",
    "bright_white", "default" ]

/-- What stands before the names of a terminal's colours. -/
def terminalMark : Text := "ansi_"

def ofName? (name : Text) : Option Colour :=
  if name = "transparent" then some .clear
  else if terminalMark.isPrefixOf name && terminalNames.contains (name.drop terminalMark.length)
  then some (.terminal name)
  else (Keyed.find? name codes).map ofCode

/-! ### Codes -/

def hexValue? (c : Char) : Option Nat :=
  if '0' ≤ c && c ≤ '9' then some (c.toNat - 48)
  else if 'a' ≤ c && c ≤ 'f' then some (c.toNat - 87)
  else if 'A' ≤ c && c ≤ 'F' then some (c.toNat - 55)
  else none

/-- The values of the hexadecimal digits at the start of a text. -/
def hexValues : Text → List Nat
  | [] => []
  | c :: rest =>
      match hexValue? c with
      | some value => value :: hexValues rest
      | none => []

/-- An opacity in parts of 255. -/
def opacityOf (part : Nat) : Binary64 := (Binary64.ofInt part).div (.ofInt 255)

/-- A colour of four amounts of which the last one is its opacity. -/
def withOpacity (red green blue part : Nat) : Colour := .mixed red green blue (opacityOf part)

/-- Reads hexadecimal digits: two for each amount or one that counts twice, and perhaps as many for
the opacity. As many digits are read as can be. -/
def readHex? (t : Text) : Option (Colour × Text) :=
  match hexValues (t.take 8) with
  | [r, r', g, g', b, b', a, a'] =>
      some (withOpacity (16 * r + r') (16 * g + g') (16 * b + b') (16 * a + a'), t.drop 8)
  | r :: r' :: g :: g' :: b :: b' :: _ =>
      some (opaqueOf (16 * r + r') (16 * g + g') (16 * b + b'), t.drop 6)
  | r :: g :: b :: a :: _ => some (withOpacity (17 * r) (17 * g) (17 * b) (17 * a), t.drop 4)
  | [r, g, b] => some (opaqueOf (17 * r) (17 * g) (17 * b), t.drop 3)
  | _ => none

/-- Reads a number, with a minus sign or a point or neither. -/
def readNumber? (t : Text) : Option (Binary64 × Text) :=
  let unsigned :=
    match t with
    | '-' :: rest => rest
    | _ => t
  let whole := unsigned.takeWhile Text.isDigit
  let (fraction, rest) :=
    match unsigned.drop whole.length with
    | '.' :: rest => (rest.takeWhile Text.isDigit, rest.dropWhile Text.isDigit)
    | rest => ([], rest)
  if whole.isEmpty then none
  else
    some
      (Binary64.ofDecimal (t.head? = some '-') (Text.numeralValue (whole ++ fraction))
        (-fraction.length), rest)

/-- The text without blanks in front of what is on the same line. -/
def dropBlanks (t : Text) : Text := t.dropWhile fun c => Text.isBlank c && !Text.isLineBreak c

/-- Reads a character with blanks around it. -/
def readMark? (c : Char) (t : Text) : Option Text :=
  match dropBlanks t with
  | d :: rest => if d = c then some (dropBlanks rest) else none
  | [] => none

/-- Reads numbers between commas up to a closing parenthesis. For each number it is said whether a
sign for parts of a hundred follows it. -/
def readNumbers? : List Bool → Text → Option (List Binary64 × Text)
  | [], _ => none
  | hasSign :: more, t => do
      let (number, rest) ← readNumber? t
      let rest ←
        match hasSign, rest with
        | true, '%' :: rest => some rest
        | true, _ => none
        | false, rest => some rest
      match more with
      | [] =>
          match dropBlanks rest with
          | ')' :: rest => some ([number], rest)
          | _ => none
      | _ :: _ =>
          let rest ← readMark? ',' rest
          let (numbers, rest) ← readNumbers? more rest
          some (number :: numbers, rest)

/-- Reads numbers in parentheses after a word. -/
def readArguments? (word : Text) (signs : List Bool) (t : Text) : Option (List Binary64 × Text) :=
  if (word ++ ['(']).isPrefixOf t then readNumbers? signs (dropBlanks (t.drop (word.length + 1)))
  else none

/-- An amount of a colour: the whole part of a number, up to 255. There is none for a number that is
too great to be told apart from others. -/
def amount? (number : Binary64) : Option Nat := number.wholePart?.map (Nat.min 255)

/-- A colour of three amounts. -/
def ofAmounts? (red green blue opacity : Binary64) : Option Colour := do
  some (.mixed (← amount? red) (← amount? green) (← amount? blue) (boundedOpacity opacity))

def third : Binary64 := (Binary64.ofInt 1).div (.ofInt 3)

def twoThirds : Binary64 := (Binary64.ofInt 2).div (.ofInt 3)

def sixth : Binary64 := (Binary64.ofInt 1).div (.ofInt 6)

def half : Binary64 := .ofDecimal false 5 (-1)

/-- One amount of a colour told by hue, as a part of one, between the least and the greatest. -/
def hueAmount (least greatest hue : Binary64) : Binary64 :=
  let turn := hue.remainder full
  let slope (distance : Binary64) : Binary64 :=
    least.add (((greatest.sub least).mul distance).mul (.ofInt 6))
  if turn.isLess sixth then slope turn
  else if turn.isLess half then greatest
  else if turn.isLess twoThirds then slope (twoThirds.sub turn)
  else least

/-- A part of one as an amount of a colour. -/
def ofPart? (part : Binary64) : Option Nat := ((part.mul (.ofInt 255)).add half).wholePart?

/-- A number of parts of a hundred, from none to all, as a part of one. -/
def ofPercent (number : Binary64) : Binary64 := boundedOpacity (number.div (.ofInt 100))

/-- The colour of a hue in degrees, a saturation and a lightness in parts of a hundred. -/
def ofHue? (hue saturation lightness opacity : Binary64) : Option Colour :=
  let hue := (hue.remainder (.ofInt 360)).div (.ofInt 360)
  let saturation := ofPercent saturation
  let lightness := ofPercent lightness
  let greatest :=
    if saturation.isZero then lightness
    else if half.isLess lightness then
      (lightness.add saturation).sub (lightness.mul saturation)
    else lightness.mul (full.add saturation)
  let least :=
    if saturation.isZero then lightness else ((Binary64.ofInt 2).mul lightness).sub greatest
  if hue = .nan then none
  else do
    let red ← ofPart? (hueAmount least greatest (hue.add third))
    let green ← ofPart? (hueAmount least greatest hue)
    let blue ← ofPart? (hueAmount least greatest (hue.sub third))
    some (.mixed red green blue (boundedOpacity opacity))

/-- What a colour code tells: a colour, or none if its numbers are beyond all bounds. -/
abbrev Reading : Type := Option Colour × Text

/-- Reads a colour told by a word and numbers in parentheses. -/
def readMixture? (t : Text) : Option Reading :=
  match readArguments? "rgb" [false, false, false] t with
  | some ([red, green, blue], rest) => some (ofAmounts? red green blue full, rest)
  | _ =>
      match readArguments? "rgba" [false, false, false, false] t with
      | some ([red, green, blue, opacity], rest) =>
          some (ofAmounts? red green blue opacity, rest)
      | _ =>
          match readArguments? "hsl" [false, true, true] t with
          | some ([hue, saturation, lightness], rest) =>
              some (ofHue? hue saturation lightness full, rest)
          | _ =>
              match readArguments? "hsla" [false, true, true, false] t with
              | some ([hue, saturation, lightness, opacity], rest) =>
                  some (ofHue? hue saturation lightness opacity, rest)
              | _ => none

/-- Reads a colour told by a code: a hash and hexadecimal digits, or a word and numbers. -/
def read? (t : Text) : Option Reading :=
  match t with
  | '#' :: digits => (readHex? digits).map fun found => (some found.1, found.2)
  | _ => readMixture? t

end Colour

end CueWatch.Panel.Markup
