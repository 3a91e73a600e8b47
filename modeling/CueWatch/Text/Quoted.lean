import CueWatch.Text.Printable

/-!
Contract: text in quotes, as it appears inside messages.

Owns:
- hexadecimal numerals of a fixed width;
- `quoted`: the text between single quotes, or between double quotes when it holds a single
  quote and no double quote, with hidden characters written as escapes.

Does not own: the strings of a data format (`Settings.Json`).
-/

namespace CueWatch.Text

/-- The lower-case hexadecimal digit of a number below sixteen. -/
def hexDigit (n : Nat) : Char :=
  if n < 10 then Char.ofNat (48 + n) else Char.ofNat (87 + n)

/-- The last `width` hexadecimal digits of a number. -/
def hex : Nat → Nat → Text
  | 0, _ => []
  | width + 1, n => hex width (n / 16) ++ [hexDigit (n % 16)]

def singleQuote : Char := Char.ofNat 0x27

def doubleQuote : Char := Char.ofNat 0x22

def backslash : Char := Char.ofNat 0x5C

/-- How one character is written between the quotes `mark`. -/
def quotedChar (mark : Char) (c : Char) : Text :=
  if c = mark || c = backslash then [backslash, c]
  else if c = '\t' then [backslash, 't']
  else if c = '\n' then [backslash, 'n']
  else if c = '\r' then [backslash, 'r']
  else if isPrintable c then [c]
  else if c.toNat ≤ 0xFF then backslash :: 'x' :: hex 2 c.toNat
  else if c.toNat ≤ 0xFFFF then backslash :: 'u' :: hex 4 c.toNat
  else backslash :: 'U' :: hex 8 c.toNat

/-- The quote that goes around a text. -/
def quoteMark (t : Text) : Char :=
  if t.contains singleQuote && !t.contains doubleQuote then doubleQuote else singleQuote

def quoted (t : Text) : Text :=
  let mark := quoteMark t
  mark :: t.flatMap (quotedChar mark) ++ [mark]

end CueWatch.Text
