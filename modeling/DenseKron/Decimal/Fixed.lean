import DenseKron.Decimal.Binary

/-!
# Decimal text of binary fractions

Two notations, both positional. `fixed places` has a given number of decimal places: the exact
value is rounded to the nearest number with so many places, and a value half-way between two of
them goes to the one whose last digit is even. `exact` writes the value out in full, which takes
finitely many digits because a power of two divides a power of ten.
-/

namespace DenseKron.Decimal

/-- The nearest whole number to a fraction; a tie goes to the even one. -/
def roundTiesToEven (num den : Nat) : Nat :=
  let q := num / den
  let twice := 2 * (num % den)
  if twice < den then q
  else if den < twice then q + 1
  else q + q % 2

/-- A whole number of units of `10 ^ -places`, written with `places` decimal places. -/
def placed (places units : Nat) : String :=
  let digits := (toString units).toList
  let padded := List.replicate (places + 1 - digits.length) '0' ++ digits
  let whole := padded.take (padded.length - places)
  let fraction := padded.drop (padded.length - places)
  String.ofList (if places = 0 then whole else whole ++ '.' :: fraction)

/-- The units of `10 ^ -places` that a binary fraction is rounded to. -/
def units (places : Nat) (x : BinaryFraction) : Nat :=
  roundTiesToEven (x.significand * Nat.pow 10 places * Nat.pow 2 x.exponent.toNat)
    (Nat.pow 2 (-x.exponent).toNat)

/-- Text with its sign. -/
def signed (negative : Bool) (text : String) : String := if negative then "-" ++ text else text

/-- A value in text form, if it is finite in the form that `digits` gives it. -/
def textOf (digits : BinaryFraction → String) : BinaryValue → String
  | .finite x => signed x.negative (digits x)
  | .infinite negative => signed negative "inf"
  | .notANumber => "NaN"

/-- **Fixed notation**, with `places` decimal places. -/
def fixed (places : Nat) (x : BinaryValue) : String :=
  textOf (fun f => placed places (units places f)) x

/-- The number of decimal places that a fraction of `2 ^ places` needs: a factor of two in the
significand saves one. -/
def neededPlaces : Nat → Nat → Nat
  | 0, _ => 0
  | places + 1, significand =>
    if significand % 2 = 0 then neededPlaces places (significand / 2) else places + 1

/-- **Exact notation**, with as many decimal places as the value needs. -/
def exact (x : BinaryValue) : String :=
  textOf (fun f =>
    let places := neededPlaces (-f.exponent).toNat f.significand
    placed places (units places f)) x

end DenseKron.Decimal
