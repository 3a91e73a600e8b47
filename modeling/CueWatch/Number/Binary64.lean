import CueWatch.Text.Digit

/-!
Contract: binary64 numbers in exact arithmetic, read from and written as decimals.

Owns:
- `Binary64`, with a finite number kept as `± mantissa · 2 ^ exponent`;
- `ofDecimal`, the nearest number to a decimal, ties to the even mantissa;
- `shortest`, the decimal with the fewest digits that reads back as the number;
- `text`, its written form: positional from `1e-4` up to below `1e16`, with an exponent of at
  least two digits elsewhere.

Does not own: arithmetic on these numbers (`Number.Arithmetic`).
-/

namespace CueWatch

/-- A binary64 number. A finite one has a mantissa below `2 ^ 53` and an exponent of at least
`-1074`; its mantissa reaches `2 ^ 52` unless the exponent is `-1074`. -/
inductive Binary64 where
  | nan
  | infinite (negative : Bool)
  | finite (negative : Bool) (mantissa : Nat) (exponent : Int)
deriving DecidableEq, Repr

namespace Binary64

/-- The least exponent of a finite number. -/
def leastExponent : Int := -1074

/-- The greatest exponent of a finite number. -/
def greatestExponent : Int := 971

def zero (negative : Bool) : Binary64 := .finite negative 0 leastExponent

def isZero : Binary64 → Bool
  | .finite _ mantissa _ => mantissa == 0
  | _ => false

/-- The natural number nearest to `numerator / denominator`, a half going to the even one. -/
def roundHalfEven (numerator denominator : Nat) : Nat :=
  let floor := numerator / denominator
  let twice := 2 * (numerator % denominator)
  if twice < denominator then floor
  else if denominator < twice then floor + 1
  else if floor % 2 = 0 then floor else floor + 1

/-- The power of a base for the positive part of an exponent; `1` for one that is not positive. -/
def power (base : Nat) (exponent : Int) : Nat := Nat.pow base exponent.toNat

/-- The least mantissa that has all 53 digits. -/
def leastFullMantissa : Nat := Nat.pow 2 52

/-- The mantissa at a given exponent: `numerator / denominator / 2 ^ exponent`, rounded. -/
def mantissaAt (numerator denominator : Nat) (exponent : Int) : Nat :=
  roundHalfEven (numerator * power 2 (-exponent)) (denominator * power 2 exponent)

/-- The number nearest to a positive ratio. -/
def ofRatio (negative : Bool) (numerator denominator : Nat) : Binary64 :=
  let guess : Int := (Nat.log2 numerator : Int) - Nat.log2 denominator - 52
  let settled : Int :=
    if numerator * power 2 (-guess) < leastFullMantissa * (denominator * power 2 guess) then
      guess - 1
    else guess
  let exponent := max settled leastExponent
  let mantissa := mantissaAt numerator denominator exponent
  let carried := decide (mantissa = 2 * leastFullMantissa)
  let exponent := if carried then exponent + 1 else exponent
  let mantissa := if carried then leastFullMantissa else mantissa
  if greatestExponent < exponent then .infinite negative else .finite negative mantissa exponent

/-- The number of decimal digits of a natural number, at least one. -/
def digitCount (n : Nat) : Nat := (Text.decimal n).length

/-- The number nearest to `± digits · 10 ^ exponent`. Decimals far outside the range are decided
by their magnitude alone. -/
def ofDecimal (negative : Bool) (digits : Nat) (exponent : Int) : Binary64 :=
  if digits = 0 then zero negative
  else
    let magnitude : Int := digitCount digits + exponent
    if 400 < magnitude then .infinite negative
    else if magnitude < -400 then zero negative
    else ofRatio negative (digits * power 10 exponent) (power 10 (-exponent))

/-- A positive decimal `digits · 10 ^ exponent`. -/
structure Decimal where
  digits : Nat
  exponent : Int
deriving DecidableEq, Repr

/-- The least shift up to `fuel` that makes `numerator · 10 ^ shift` reach `denominator`. -/
def leastShift (numerator denominator : Nat) : Nat → Nat → Nat
  | 0, shift => shift
  | fuel + 1, shift =>
      if denominator ≤ numerator * Nat.pow 10 shift then shift
      else leastShift numerator denominator fuel (shift + 1)

/-- The exponent of the leading decimal digit of a positive ratio. -/
def leadingExponent (numerator denominator : Nat) : Int :=
  if denominator ≤ numerator then (digitCount (numerator / denominator) : Int) - 1
  else -(leastShift numerator denominator 400 1 : Int)

/-- The interval of ratios that read back as a number: its ends and the number itself over one
denominator, and whether the ends belong to it. -/
structure ReadingInterval where
  low : Nat
  value : Nat
  high : Nat
  denominator : Nat
  closed : Bool
deriving DecidableEq, Repr

/-- The reading interval of a positive finite number. Below a power of two the numbers are twice
as dense, so the lower end is nearer there. -/
def readingInterval (mantissa : Nat) (exponent : Int) : ReadingInterval :=
  let scale := power 2 (exponent - 2)
  let below := if mantissa = leastFullMantissa && leastExponent < exponent then 1 else 2
  { low := (4 * mantissa - below) * scale
    value := 4 * mantissa * scale
    high := (4 * mantissa + 2) * scale
    denominator := power 2 (2 - exponent)
    closed := mantissa % 2 == 0 }

/-- The interval measured in units of `10 ^ step`. -/
def ReadingInterval.inUnits (interval : ReadingInterval) (step : Int) : ReadingInterval :=
  let up := power 10 (-step)
  { interval with
    low := interval.low * up
    value := interval.value * up
    high := interval.high * up
    denominator := interval.denominator * power 10 step }

/-- Whether a whole number of units lies in the interval. -/
def ReadingInterval.holds (interval : ReadingInterval) (units : Nat) : Bool :=
  let point := units * interval.denominator
  if interval.closed then interval.low ≤ point && point ≤ interval.high
  else interval.low < point && point < interval.high

/-- The whole number of units in the interval that is nearest to the value, if there is one; of
two equally near the even one. -/
def ReadingInterval.nearest? (interval : ReadingInterval) : Option Nat :=
  let floor := interval.value / interval.denominator
  match interval.holds floor, interval.holds (floor + 1) with
  | true, true => some (roundHalfEven interval.value interval.denominator)
  | true, false => some floor
  | false, true => some (floor + 1)
  | false, false => none

/-- Tries grids of `count`, `count + 1`, … digits until one has a point in the interval. -/
def shortestFrom (interval : ReadingInterval) (leading : Int) : Nat → Nat → Decimal
  | 0, count => ⟨interval.value / interval.denominator, leading - count + 1⟩
  | fuel + 1, count =>
      let step := leading - count + 1
      match (interval.inUnits step).nearest? with
      | some digits => ⟨digits, step⟩
      | none => shortestFrom interval leading fuel (count + 1)

/-- The decimal with the fewest digits that reads back as a positive finite number; seventeen
digits always suffice. -/
def shortest (mantissa : Nat) (exponent : Int) : Decimal :=
  let interval := readingInterval mantissa exponent
  shortestFrom interval (leadingExponent interval.value interval.denominator) 17 1

/-- A decimal without zeros at the end of its digits. -/
def Decimal.strip (d : Decimal) : Text × Int :=
  let written := Text.decimal d.digits
  let kept := Text.dropEndWhile (· == '0') written
  (kept, d.exponent + written.length)

/-- An exponent with its sign and at least two digits. -/
def exponentText (exponent : Int) : Text :=
  let digits := Text.decimal exponent.natAbs
  (if exponent < 0 then '-' else '+') :: (if digits.length < 2 then '0' :: digits else digits)

/-- Digits with the decimal point after `point` of them, zeros filled in on either side. -/
def positional (digits : Text) (point : Int) : Text :=
  if point ≤ 0 then
    "0." ++ List.replicate (-point).toNat '0' ++ digits
  else if (digits.length : Int) ≤ point then
    digits ++ List.replicate (point.toNat - digits.length) '0' ++ ".0"
  else digits.take point.toNat ++ '.' :: digits.drop point.toNat

/-- Digits with the decimal point after the first of them and an exponent. -/
def scientific (digits : Text) (point : Int) : Text :=
  let tail := digits.drop 1
  digits.take 1 ++ (if tail.isEmpty then [] else '.' :: tail) ++ 'e' :: exponentText (point - 1)

/-- The written form of a finite number without its sign. -/
def magnitudeText (mantissa : Nat) (exponent : Int) : Text :=
  if mantissa = 0 then "0.0"
  else
    let (digits, point) := (shortest mantissa exponent).strip
    if -4 < point && point ≤ 16 then positional digits point else scientific digits point

def text : Binary64 → Text
  | .nan => "NaN"
  | .infinite false => "Infinity"
  | .infinite true => "-Infinity"
  | .finite negative mantissa exponent =>
      if negative then '-' :: magnitudeText mantissa exponent else magnitudeText mantissa exponent

end Binary64

end CueWatch
