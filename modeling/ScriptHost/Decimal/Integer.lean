import ScriptHost.Decimal.Binary

/-!
Doubles that are integers.

Integers of magnitude at most `2 ^ 53` and doubles determine each other.
-/

namespace ScriptHost.Decimal

/-- The largest magnitude up to which every integer is a double. -/
def exactLimit : Nat := Nat.pow 2 53

def Dyadic.integer? (value : Dyadic) : Option Nat :=
  if 0 ≤ value.exponent then
    some (value.mantissa * Nat.pow 2 value.exponent.toNat)
  else
    let unit := Nat.pow 2 (-value.exponent).toNat
    if value.mantissa % unit = 0 then some (value.mantissa / unit) else none

def exactInteger? (number : Float) : Option Int :=
  match magnitude number with
  | .zero => some 0
  | .finite value =>
      match value.integer? with
      | some size =>
          if size ≤ exactLimit then
            some (if hasMinus number then -(size : Int) else size)
          else
            none
      | none => none
  | .infinite | .notANumber => none

def exactFloat? (integer : Int) : Option Float :=
  if integer.natAbs ≤ exactLimit then some (Float.ofInt integer) else none

end ScriptHost.Decimal
