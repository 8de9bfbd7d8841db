/-!
# Binary fractions

A finite floating-point number is a whole number times a power of two. This module takes such a
number apart; everything that prints one works on the parts, in exact arithmetic.
-/

namespace DenseKron

/-- **Binary fraction.** The number `significand * 2 ^ exponent`, with a sign that also tells
the two zeros apart. -/
structure BinaryFraction where
  negative : Bool
  significand : Nat
  exponent : Int
  deriving DecidableEq, Repr

/-- A floating-point number, by what it denotes. -/
inductive BinaryValue where
  | finite (fraction : BinaryFraction)
  | infinite (negative : Bool)
  | notANumber
  deriving DecidableEq, Repr

namespace BinaryValue

/-- The number that the bits of a double stand for: one bit of sign, eleven of exponent, and 52
of a fraction whose leading one is left out unless the exponent is at its lowest. -/
def ofDoubleBits (bits : Nat) : BinaryValue :=
  let negative := bits / 0x8000000000000000 % 2 == 1
  let exponent : Nat := bits / 0x10000000000000 % 0x800
  let fraction : Nat := bits % 0x10000000000000
  if exponent = 0x7FF then
    if fraction = 0 then infinite negative else notANumber
  else if exponent = 0 then finite ⟨negative, fraction, -1074⟩
  else finite ⟨negative, 0x10000000000000 + fraction, (exponent : Int) - 1075⟩

/-- What a double denotes. -/
def ofFloat (x : Float) : BinaryValue := ofDoubleBits x.toBits.toNat

end BinaryValue

end DenseKron
