import CueWatch.Text.Basic

/-!
Contract: decimal digits of all scripts, the number that a run of them stands for, and the
decimal numeral of a natural number and of an integer.

Owns:
- `digitZeros`, the zeros of the scripts that write decimal numbers with digits;
- `digitValue?`, `isDigit` and `numeralValue`;
- `decimal` and `signedDecimal`, which write with ASCII digits only.

Does not own: how many digits a reader accepts.
-/

namespace CueWatch.Text

/-- The code points of the digit zero in each script; the nine digits after each zero follow it
in order. -/
def digitZeros : List Nat :=
  [
    0x30, 0x660, 0x6F0, 0x7C0, 0x966, 0x9E6, 0xA66, 0xAE6, 0xB66,
    0xBE6, 0xC66, 0xCE6, 0xD66, 0xDE6, 0xE50, 0xED0, 0xF20, 0x1040,
    0x1090, 0x17E0, 0x1810, 0x1946, 0x19D0, 0x1A80, 0x1A90, 0x1B50, 0x1BB0,
    0x1C40, 0x1C50, 0xA620, 0xA8D0, 0xA900, 0xA9D0, 0xA9F0, 0xAA50, 0xABF0,
    0xFF10, 0x104A0, 0x10D30, 0x11066, 0x110F0, 0x11136, 0x111D0, 0x112F0, 0x11450,
    0x114D0, 0x11650, 0x116C0, 0x11730, 0x118E0, 0x11950, 0x11C50, 0x11D50, 0x11DA0,
    0x16A60, 0x16AC0, 0x16B50, 0x1D7CE, 0x1D7D8, 0x1D7E2, 0x1D7EC, 0x1D7F6, 0x1E140,
    0x1E2F0, 0x1E950, 0x1FBF0
  ]

/-- The value of a decimal digit of any script. -/
def digitValue? (c : Char) : Option Nat :=
  (digitZeros.find? fun first => first ≤ c.toNat && c.toNat ≤ first + 9).map (c.toNat - ·)

/-- Whether a character is a decimal digit of some script. -/
def isDigit (c : Char) : Bool := (digitValue? c).isSome

/-- Reads one more digit after a number already read; other characters count as zero. -/
def appendDigit (value : Nat) (c : Char) : Nat := 10 * value + (digitValue? c).getD 0

/-- The number that a run of digits stands for, scripts mixed freely. -/
def numeralValue (digits : Text) : Nat := digits.foldl appendDigit 0

/-- The ASCII digit of a number below ten. -/
def digitChar (n : Nat) : Char := Char.ofNat (48 + n)

/-- The decimal numeral of a natural number, in ASCII digits without leading zeros. -/
def decimal (n : Nat) : Text :=
  if n < 10 then [digitChar n] else decimal (n / 10) ++ [digitChar (n % 10)]
termination_by n
decreasing_by omega

/-- The decimal numeral of an integer, with a minus sign if it is negative. -/
def signedDecimal (n : Int) : Text :=
  if n < 0 then '-' :: decimal n.natAbs else decimal n.natAbs

end CueWatch.Text
