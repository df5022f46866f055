/-!
Doubles read exactly, from their bits.

A finite double other than zero is `mantissa * 2 ^ exponent`; all decimal texts of the library
are computed from that pair in natural-number arithmetic. No rounding happens in this module.
-/

namespace ScriptHost.Decimal

/-- The positive number `mantissa * 2 ^ exponent`. A `narrow` number is a power of two whose
lower neighbour is only half as far away as its upper one. -/
structure Dyadic where
  mantissa : Nat
  exponent : Int
  narrow : Bool
deriving DecidableEq, Repr

inductive Magnitude where
  | zero
  | finite (value : Dyadic)
  | infinite
  | notANumber
deriving DecidableEq, Repr

/-- The fields of a double: 11 bits of biased exponent above 52 bits of fraction. -/
def magnitudeOfBits (bits : Nat) : Magnitude :=
  let fraction : Nat := bits % Nat.pow 2 52
  let biased : Nat := bits / Nat.pow 2 52 % Nat.pow 2 11
  if biased = 2047 then
    if fraction = 0 then .infinite else .notANumber
  else if biased = 0 then
    if fraction = 0 then .zero else .finite ⟨fraction, -1074, false⟩
  else
    .finite ⟨Nat.pow 2 52 + fraction, (biased : Int) - 1075,
      fraction == 0 && decide (1 < biased)⟩

def magnitude (number : Float) : Magnitude :=
  magnitudeOfBits number.toBits.toNat

def hasMinus (number : Float) : Bool :=
  number.toBits.toNat / Nat.pow 2 63 % 2 == 1

end ScriptHost.Decimal
