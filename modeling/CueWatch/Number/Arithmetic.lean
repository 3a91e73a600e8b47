import CueWatch.Number.Binary64

/-!
Contract: arithmetic on binary64 numbers.

Owns:
- `toRat?`, the exact value of a finite number, and `ofRat`, the number nearest to an exact value;
- sum, difference, product, quotient and remainder, each the exact result rounded once.

Does not own: results from infinite operands, which are all `nan` here, but for products.
-/

namespace CueWatch.Binary64

/-- The exact value of a finite number. -/
def toRat? : Binary64 → Option Rat
  | .finite negative mantissa exponent =>
      let size := mkRat (mantissa * power 2 exponent) (power 2 (-exponent))
      some (if negative then -size else size)
  | _ => none

def isNegative : Binary64 → Bool
  | .nan => false
  | .infinite negative => negative
  | .finite negative _ _ => negative

/-- The number nearest to an exact value; the sign of zero is given. -/
def ofRat (zeroIsNegative : Bool) (value : Rat) : Binary64 :=
  if value = 0 then zero zeroIsNegative
  else ofRatio (decide (value < 0)) value.num.natAbs value.den

def ofInt (value : Int) : Binary64 := ofDecimal (decide (value < 0)) value.natAbs 0

def add (x y : Binary64) : Binary64 :=
  match x.toRat?, y.toRat? with
  | some p, some q => ofRat (x.isNegative && y.isNegative) (p + q)
  | _, _ => .nan

def opposite : Binary64 → Binary64
  | .nan => .nan
  | .infinite negative => .infinite !negative
  | .finite negative mantissa exponent => .finite (!negative) mantissa exponent

def sub (x y : Binary64) : Binary64 := x.add y.opposite

def mul (x y : Binary64) : Binary64 :=
  let negative := x.isNegative != y.isNegative
  match x.toRat?, y.toRat? with
  | some p, some q => ofRat negative (p * q)
  | _, _ => if x = .nan || y = .nan || x.isZero || y.isZero then .nan else .infinite negative

/-- The quotient of two numbers of which the second one is not zero. -/
def div (x y : Binary64) : Binary64 :=
  match x.toRat?, y.toRat? with
  | some p, some q => if q = 0 then .nan else ofRat (x.isNegative != y.isNegative) (p / q)
  | _, _ => .nan

/-- The remainder of a division with a whole quotient by a positive number; it is not negative. -/
def remainder (x y : Binary64) : Binary64 :=
  match x.toRat?, y.toRat? with
  | some p, some q => if q = 0 then .nan else ofRat false (p - q * (p / q).floor)
  | _, _ => .nan

def isLess (x y : Binary64) : Bool :=
  match x, y with
  | .nan, _ => false
  | _, .nan => false
  | .infinite negative, y => negative && y ≠ .infinite true
  | _, .infinite negative => !negative
  | x, y =>
      match x.toRat?, y.toRat? with
      | some p, some q => decide (p < q)
      | _, _ => false

/-- The number, or the end of an interval that it lies beyond. -/
def clamp (low high x : Binary64) : Binary64 :=
  if x.isLess low then low else if high.isLess x then high else x

/-- The whole part of a finite number that is not negative; zero for a negative one. -/
def wholePart? (x : Binary64) : Option Nat := x.toRat?.map fun value => value.floor.toNat

end CueWatch.Binary64
